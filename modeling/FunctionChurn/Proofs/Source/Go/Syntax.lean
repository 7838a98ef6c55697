import FunctionChurn.Source.Go

/-!
# Go files as they are written

What a file of Go declares is said here by its structure and not by a search.  A file is a row of parts
with gaps between them; brackets stand in pairs, and between them there is another row.  A `func` in such
a row begins a declaration or a signature, and declarations stand in the top row only.

* `Trivium` and `Gap` are what can stand between the parts: blanks, and both kinds of comments.
* `Symbol` are the tokens other than brackets and `func`: names, keywords, numbers, runes, strings in
  quotes and in backquotes, operators.  `Part` are all tokens.
* `Part.Ends` says that a part ends where it does and is not longer, which decides where a gap may be
  empty.
* `Row` is the structure, with declarations at the `top` and none `inside` of brackets.
* `Begins` is where a declaration can begin, by the rule for semicolons at the end of a line.
* **`File`** is a file, `File.text` what is written in it, and `Row.entries` what it declares.

Nothing is said about types and expressions: whatever stands in a row besides declarations is a row of
symbols, bracketed rows and signatures.
-/

namespace FunctionChurn.Source.Go

/-! ## Characters of a text

What is said about the characters of a text is decided by going through the text.  There are finitely many
characters, so it could also be decided by trying all of them, which these instances come before. -/

scoped instance (priority := 2000) decidableForallMem {p : Char → Prop} [DecidablePred p]
    (cs : List Char) : Decidable (∀ c ∈ cs, p c) :=
  List.decidableBAll p cs

scoped instance (priority := 2000) decidableForallMemOption {p : Char → Prop} [DecidablePred p]
    (o : Option Char) : Decidable (∀ c ∈ o, p c) :=
  Option.decidableForallMem o

scoped instance (priority := 2000) decidableExistsMemOption {p : Char → Prop} [DecidablePred p]
    (o : Option Char) : Decidable (∃ c ∈ o, p c) :=
  Option.decidableExistsMem o

theorem isSpacing_blank : Text.isSpacing ' ' := by decide

theorem isSpacing_feed : Text.isSpacing '\n' := by decide

/-- A name of one character has no others. -/
theorem isWordChar_of_mem_nil : ∀ c ∈ ([] : List Char), isWordChar c := by decide

/-! ## Gaps -/

/-- **What can stand between two parts**: a blank, a comment through the end of its line, or a comment
between marks. -/
inductive Trivium where
  | blank (c : Char) (spacing : Text.isSpacing c)
  | line (body : List Char) (inLine : '\n' ∉ body)
  | general (body : List Char) (unclosed : ¬ ['*', '/'] <:+: body)

/-- A trivium as it is written. -/
def Trivium.text : Trivium → List Char
  | blank c _ => [c]
  | line body _ => '/' :: '/' :: (body ++ ['\n'])
  | general body _ => '/' :: '*' :: (body ++ ['*', '/'])

/-- **What stands between two parts.** -/
abbrev Gap := List Trivium

/-- A gap as it is written. -/
def Gap.text (g : Gap) : List Char := g.flatMap Trivium.text

/-- **The gap at the end of a file**, where a comment need not be ended by a line feed. -/
structure Ending where
  gap : Gap
  comment : Option (List Char)
  inLine : ∀ body ∈ comment, '\n' ∉ body

/-- The end of a file as it is written. -/
def Ending.text (e : Ending) : List Char :=
  e.gap.text ++ match e.comment with
    | some body => '/' :: '/' :: body
    | none => []

/-! ## Symbols -/

/-- The keywords, but for `func`. -/
def keywords : List String :=
  ["break", "case", "chan", "const", "continue", "default", "defer", "else", "fallthrough", "for", "go",
    "goto", "if", "import", "interface", "map", "package", "range", "return", "select", "struct",
    "switch", "type", "var"]

/-- The operators and separators, but for the brackets. -/
def operators : List String :=
  ["+", "&", "+=", "&=", "&&", "==", "!=", "-", "|", "-=", "|=", "||", "<", "<=", "*", "^", "*=", "^=",
    "<-", ">", ">=", "/", "<<", "/=", "<<=", "++", "=", ":=", "%", ">>", "%=", ">>=", "--", "!", "~",
    "&^", "&^=", "...", ",", ";", ".", ":"]

/-- **Names**: letters, digits and underscores, the first no digit, that are no keyword.  All that is
beyond ASCII and no blank counts as a letter; a byte order mark begins no name. -/
structure Identifier where
  front : Char
  back : List Char
  letter : isWordChar front ∧ ¬ front.isDigit ∧ front ≠ '\uFEFF'
  letters : ∀ c ∈ back, isWordChar c
  free : ∀ k ∈ "func" :: keywords, k.toList ≠ front :: back

/-- A name as it is written. -/
def Identifier.text (n : Identifier) : List Char := n.front :: n.back

/-- The exponents of numbers, behind one of some letters. -/
inductive IsExponent (letters : List Char) : List Char → Prop where
  | none : IsExponent letters []
  | some {letter digit : Char} {sign digits : List Char} :
      letter ∈ letters → sign ∈ [[], ['+'], ['-']] → digit.isDigit →
        (∀ c ∈ digits, c.isDigit ∨ c = '_') →
        IsExponent letters (letter :: (sign ++ digit :: digits))

/-- What can stand behind a number to make it imaginary. -/
def IsUnit (unit : List Char) : Prop := unit = [] ∨ unit = ['i']

/-- **Numbers**, with points, separators and exponents. -/
inductive IsNumber : List Char → Prop where
  /-- In decimal, which can begin with a point. -/
  | decimal {c : Char} {digits exponent unit : List Char} :
      (c.isDigit ∨ c = '.' ∧ digits.head?.any Char.isDigit) →
        (∀ x ∈ digits, x.isDigit ∨ x = '_' ∨ x = '.') →
        IsExponent ['e', 'E'] exponent → IsUnit unit → IsNumber (c :: (digits ++ exponent ++ unit))
  /-- In binary or octal. -/
  | short {radix : Char} {digits unit : List Char} :
      radix ∈ ['b', 'B', 'o', 'O'] → (∀ x ∈ digits, x.isDigit ∨ x = '_') → IsUnit unit →
        IsNumber ('0' :: radix :: (digits ++ unit))
  /-- In hexadecimal, where the letters of decimal exponents are digits. -/
  | hex {radix : Char} {digits exponent unit : List Char} :
      radix ∈ ['x', 'X'] → (∀ x ∈ digits, (Text.hexValue? x).isSome ∨ x = '_' ∨ x = '.') →
        IsExponent ['p', 'P'] exponent → IsUnit unit →
        IsNumber ('0' :: radix :: (digits ++ exponent ++ unit))

/-- **What can stand between two quotes**: a quote only behind a backslash, which takes the character
behind it along. -/
inductive IsQuoted (mark : Char) : List Char → Prop where
  | nil : IsQuoted mark []
  | plain {c : Char} {rest : List Char} :
      c ≠ mark → c ≠ '\\' → IsQuoted mark rest → IsQuoted mark (c :: rest)
  | escape {c : Char} {rest : List Char} : IsQuoted mark rest → IsQuoted mark ('\\' :: c :: rest)

/-- **The tokens other than brackets and `func`.** -/
inductive Symbol where
  | name (n : Identifier)
  | keyword (text : String) (known : text ∈ keywords)
  | number (text : List Char) (number : IsNumber text)
  | rune (body : List Char) (quoted : IsQuoted '\'' body)
  | string (body : List Char) (quoted : IsQuoted '"' body)
  | raw (body : List Char) (unclosed : '\x60' ∉ body)
  | operator (text : String) (known : text ∈ operators)

/-- A symbol as it is written. -/
def Symbol.text : Symbol → List Char
  | name n => n.text
  | keyword text _ => text.toList
  | number text _ => text
  | rune body _ => '\'' :: (body ++ ['\''])
  | string body _ => '"' :: (body ++ ['"'])
  | raw body _ => '\x60' :: (body ++ ['\x60'])
  | operator text _ => text.toList

/-- The shapes of brackets. -/
inductive Bracket where
  | round
  | square
  | curly
  deriving DecidableEq, Repr

/-- The bracket that opens. -/
def Bracket.opening : Bracket → Char
  | round => '('
  | square => '['
  | curly => '\x7b'

/-- The bracket that closes. -/
def Bracket.closing : Bracket → Char
  | round => ')'
  | square => ']'
  | curly => '\x7d'

/-! ## Parts -/

/-- **The tokens of a file.** -/
inductive Part where
  | symbol (s : Symbol)
  | func
  | opening (b : Bracket)
  | closing (b : Bracket)

namespace Part

/-- A part as it is written. -/
def text : Part → List Char
  | symbol s => s.text
  | func => "func".toList
  | opening b => [b.opening]
  | closing b => [b.closing]

/-- **Whether a part ends before some text.**  It would be longer if it were a word before another
letter, a number before one or before a point (numbers have no fields), or an operator that goes on or
begins a comment or a number. -/
def Ends (after : List Char) : Part → Prop
  | symbol (.name _) | symbol (.keyword _ _) | func => ∀ c ∈ after.head?, ¬ isWordChar c
  | symbol (.number _ _) => ∀ c ∈ after.head?, ¬ isWordChar c ∧ c ≠ '.'
  | symbol (.operator o _) =>
      (∀ longer ∈ operators, longer.toList <+: o.toList ++ after → longer.length ≤ o.length)
        ∧ (o = "/" → ∀ c ∈ after.head?, c ≠ '/' ∧ c ≠ '*')
        ∧ (o = "." → ∀ c ∈ after.head?, ¬ c.isDigit)
  | symbol (.rune _ _) | symbol (.string _ _) | symbol (.raw _ _) | opening _ | closing _ => True

instance (after : List Char) : (p : Part) → Decidable (p.Ends after)
  | symbol (.name _) | symbol (.keyword _ _) | func =>
      inferInstanceAs (Decidable (∀ c ∈ after.head?, ¬ isWordChar c))
  | symbol (.number _ _) => inferInstanceAs (Decidable (∀ c ∈ after.head?, ¬ isWordChar c ∧ c ≠ '.'))
  | symbol (.operator o _) =>
      inferInstanceAs (Decidable (
        (∀ longer ∈ operators, longer.toList <+: o.toList ++ after → longer.length ≤ o.length)
          ∧ (o = "/" → ∀ c ∈ after.head?, c ≠ '/' ∧ c ≠ '*')
          ∧ (o = "." → ∀ c ∈ after.head?, ¬ c.isDigit)))
  | symbol (.rune _ _) | symbol (.string _ _) | symbol (.raw _ _) | opening _ | closing _ =>
      inferInstanceAs (Decidable True)

/-- **Whether a statement ends with a part** if the line ends there: with a name, a value, one of four
keywords, one of two operators, or a closing bracket. -/
def Finishes : Part → Prop
  | symbol (.keyword k _) => k ∈ ["break", "continue", "fallthrough", "return"]
  | symbol (.operator o _) => o ∈ ["++", "--"]
  | func | opening _ => False
  | symbol _ | closing _ => True

instance : (p : Part) → Decidable p.Finishes
  | symbol (.keyword k _) =>
      inferInstanceAs (Decidable (k ∈ ["break", "continue", "fallthrough", "return"]))
  | symbol (.operator o _) => inferInstanceAs (Decidable (o ∈ ["++", "--"]))
  | func | opening _ => inferInstanceAs (Decidable False)
  | symbol (.name _) | symbol (.number _ _) | symbol (.rune _ _) | symbol (.string _ _)
  | symbol (.raw _ _) | closing _ => inferInstanceAs (Decidable True)

/-- Whether a part is a semicolon. -/
def IsSemicolon : Part → Prop
  | symbol (.operator o _) => o = ";"
  | _ => False

instance : (p : Part) → Decidable p.IsSemicolon
  | symbol (.operator o _) => inferInstanceAs (Decidable (o = ";"))
  | symbol (.name _) | symbol (.keyword _ _) | symbol (.number _ _) | symbol (.rune _ _)
  | symbol (.string _ _) | symbol (.raw _ _) | func | opening _ | closing _ =>
      inferInstanceAs (Decidable False)

end Part

/-- A part with the gap before it. -/
structure Piece where
  gap : Gap
  part : Part

/-- A piece as it is written. -/
def Piece.text (p : Piece) : List Char := p.gap.text ++ p.part.text

/-- **Whether pieces are kept apart**, by their gaps or by what they are. -/
def Apart (after : List Char) : List Piece → Prop
  | [] => True
  | p :: rest => p.part.Ends (rest.flatMap Piece.text ++ after) ∧ Apart after rest

instance decidableApart (after : List Char) : (ps : List Piece) → Decidable (Apart after ps)
  | [] => inferInstanceAs (Decidable True)
  | p :: rest =>
      have := decidableApart after rest
      inferInstanceAs (Decidable (p.part.Ends (rest.flatMap Piece.text ++ after) ∧ Apart after rest))

/-- **Where a statement can begin**, given the part before the gap: at the start, behind a semicolon, or
on a new line when the statement before ends there. -/
def Begins (previous : Option Part) (gap : Gap) : Prop :=
  match previous with
  | none => True
  | some p => p.IsSemicolon ∨ '\n' ∈ gap.text ∧ p.Finishes

instance : (previous : Option Part) → (gap : Gap) → Decidable (Begins previous gap)
  | none, _ => inferInstanceAs (Decidable True)
  | some p, gap => inferInstanceAs (Decidable (p.IsSemicolon ∨ '\n' ∈ gap.text ∧ p.Finishes))

/-! ## Rows -/

/-- Where a row stands. -/
inductive Level where
  | top
  | inside

/-- **A row of a file.**  A `func` begins a function, a method, or the signature of a function type or
function literal. -/
inductive Row : Level → Type where
  | nil {l : Level} : Row l
  | symbol {l : Level} (gap : Gap) (s : Symbol) (rest : Row l) : Row l
  | group {l : Level} (gap : Gap) (b : Bracket) (inner : Row .inside) (close : Gap) (rest : Row l) :
      Row l
  | signature {l : Level} (gap start : Gap) (params : Row .inside) (close : Gap) (rest : Row l) : Row l
  | function (gap nameGap : Gap) (name : Identifier) (rest : Row .top) : Row .top
  | method (gap start : Gap) (receiver : Row .inside) (close nameGap : Gap) (name : Identifier)
      (paramsGap : Gap) (params : Row .inside) (paramsClose : Gap) (rest : Row .top) : Row .top

namespace Row

/-- A bracketed row, and what stands behind it. -/
def enclosed (gap : Gap) (b : Bracket) (inner : List Piece) (close : Gap) (rest : List Piece) :
    List Piece :=
  ⟨gap, .opening b⟩ :: (inner ++ ⟨close, .closing b⟩ :: rest)

/-- The pieces of a row, from left to right. -/
def pieces {l : Level} : Row l → List Piece
  | nil => []
  | symbol gap s rest => ⟨gap, .symbol s⟩ :: rest.pieces
  | group gap b inner close rest => enclosed gap b inner.pieces close rest.pieces
  | signature gap start params close rest =>
      ⟨gap, .func⟩ :: enclosed start .round params.pieces close rest.pieces
  | function gap nameGap name rest => ⟨gap, .func⟩ :: ⟨nameGap, .symbol (.name name)⟩ :: rest.pieces
  | method gap start receiver close nameGap name paramsGap params paramsClose rest =>
      ⟨gap, .func⟩ :: enclosed start .round receiver.pieces close
        (⟨nameGap, .symbol (.name name)⟩
          :: enclosed paramsGap .round params.pieces paramsClose rest.pieces)

/-- A row as it is written. -/
def text {l : Level} (r : Row l) : List Char := r.pieces.flatMap Piece.text

/-- Whether a row begins with a name and a list in round brackets. -/
def BeginsNamed {l : Level} : Row l → Prop
  | symbol _ (.name _) (group _ .round _ _ _) => True
  | _ => False

instance {l : Level} (r : Row l) : Decidable r.BeginsNamed := by
  unfold BeginsNamed
  split <;> infer_instance

/-- **Whether methods begin where statements do**, given the part before the row, and signatures that
begin there are not taken for methods. -/
def WellBegun {l : Level} (previous : Option Part) : Row l → Prop
  | nil => True
  | symbol _ s rest => rest.WellBegun (some (.symbol s))
  | group _ b _ _ rest => rest.WellBegun (some (.closing b))
  | signature gap _ _ _ rest =>
      (Begins previous gap → ¬ rest.BeginsNamed) ∧ rest.WellBegun (some (.closing .round))
  | function _ _ name rest => rest.WellBegun (some (.symbol (.name name)))
  | method gap _ _ _ _ _ _ _ _ rest =>
      Begins previous gap ∧ rest.WellBegun (some (.closing .round))

instance decidableWellBegun {l : Level} (previous : Option Part) :
    (r : Row l) → Decidable (r.WellBegun previous)
  | nil => inferInstanceAs (Decidable True)
  | symbol _ s rest => decidableWellBegun (some (.symbol s)) rest
  | group _ b _ _ rest => decidableWellBegun (some (.closing b)) rest
  | signature gap _ _ _ rest =>
      have := decidableWellBegun (some (.closing .round)) rest
      inferInstanceAs (Decidable
        ((Begins previous gap → ¬ rest.BeginsNamed) ∧ rest.WellBegun (some (.closing .round))))
  | function _ _ name rest => decidableWellBegun (some (.symbol (.name name))) rest
  | method gap _ _ _ _ _ _ _ _ rest =>
      have := decidableWellBegun (some (.closing .round)) rest
      inferInstanceAs (Decidable (Begins previous gap ∧ rest.WellBegun (some (.closing .round))))

/-- **What a row declares**, with the groups of receivers and of names: the name of each function, and of
each method the receiver list as it is written and then the name. -/
def entries {l : Level} : Row l → List (Int × List Char)
  | nil => []
  | symbol _ _ rest => rest.entries
  | group _ _ _ _ rest => rest.entries
  | signature _ _ _ _ rest => rest.entries
  | function _ _ name rest => (1, name.text) :: rest.entries
  | method _ _ receiver close _ name _ _ _ rest =>
      (0, '(' :: (receiver.text ++ close.text ++ [')'])) :: (1, name.text) :: rest.entries

end Row

/-- **A file of Go**, in any layout. -/
structure File where
  /-- Whether a byte order mark stands at the start. -/
  marked : Bool
  code : Row .top
  ending : Ending
  apart : Apart ending.text code.pieces
  wellBegun : code.WellBegun none

/-- **A file as it is written.** -/
def File.text (f : File) : List Char :=
  (if f.marked then ['\uFEFF'] else []) ++ (f.code.text ++ f.ending.text)

end FunctionChurn.Source.Go
