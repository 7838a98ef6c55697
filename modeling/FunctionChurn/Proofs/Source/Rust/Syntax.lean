import FunctionChurn.Proofs.Source.Reading
import FunctionChurn.Source.Rust

/-!
# Rust files as they are written

What a file of Rust defines is said here by its structure and not by a search.  A file is a row of
symbols with gaps between them; brackets stand in pairs, and between them there is another row.  A `fn`
in a row of code begins a function with its body, a signature that a semicolon ends, or a pointer type.

* `Trivium` and `Gap` are what can stand between the symbols: blanks, and both kinds of comments, one of
  which nests (`IsComment`).
* `Symbol` are the tokens: names, keywords, numbers, lifetimes, characters, strings, raw strings, marks.
  `Symbol.ends` says where a symbol ends and is not longer.
* `Level` is where a row stands: in code, in the header of a function, between angle brackets there, or
  in a token tree, in which everything is a symbol.
* `Row` is the structure.  Attributes, calls and definitions of macros hold token trees.
* **`File`** is a file, `File.text` what is written in it, and `Row.names` are the names of the functions
  that it defines.

Nothing is said about types, patterns and expressions.  Only in the header of a function matters what a
type is made of: there angle brackets stand in pairs, and a block stands between them or deeper.
-/

namespace FunctionChurn.Source.Rust

open Go (IsQuoted Bracket)
open scoped Go

/-! ## Gaps -/

/-- **What can stand in a comment between marks**: other such comments, and no closing mark of its own.
A slash takes the character behind it along, so that a star behind two slashes opens nothing. -/
inductive IsComment : List Char → Prop where
  | nil : IsComment []
  | plain {c : Char} {rest : List Char} : c ≠ '/' → c ≠ '*' → IsComment rest → IsComment (c :: rest)
  | slash {c : Char} {rest : List Char} : c ≠ '*' → IsComment rest → IsComment ('/' :: c :: rest)
  | star {rest : List Char} : rest.head? ≠ some '/' → IsComment rest → IsComment ('*' :: rest)
  | nested {body rest : List Char} :
      IsComment body → IsComment rest → IsComment ('/' :: '*' :: (body ++ '*' :: '/' :: rest))

/-- **What can stand between two symbols**: a blank, a comment through the end of its line, or a comment
between marks. -/
inductive Trivium where
  | blank (c : Char) (spacing : Text.isSpacing c)
  | line (body : List Char) (inLine : '\n' ∉ body)
  | block (body : List Char) (comment : IsComment body)

/-- A trivium as it is written. -/
def Trivium.text : Trivium → List Char
  | blank c _ => [c]
  | line body _ => '/' :: '/' :: (body ++ ['\n'])
  | block body _ => '/' :: '*' :: (body ++ ['*', '/'])

/-- **What stands between two symbols.** -/
abbrev Gap := List Trivium

/-- A gap as it is written. -/
def Gap.text (g : Gap) : List Char := g.flatMap Trivium.text

/-- **The gap at the end of a file**, where a comment need not be ended by a line feed. -/
structure Ending where
  gap : Gap
  comment : Option (List Char)
  inLine : ∀ body ∈ comment, '\n' ∉ body

/-- The end of a file as it is written. -/
def Ending.text (e : Ending) : List Char :=
  e.gap.text ++ match e.comment with
    | some body => '/' :: '/' :: body
    | none => []

/-! ## Symbols -/

/-- **Words**: letters, digits and underscores, the first no digit.  All that is beyond ASCII and no blank
counts as a letter. -/
structure Word where
  front : Char
  back : List Char
  letter : isWordChar front ∧ ¬ front.isDigit
  letters : ∀ c ∈ back, isWordChar c

/-- A word as it is written. -/
def Word.text (w : Word) : List Char := w.front :: w.back

/-- What stands in front of a raw name. -/
def rawMark (raw : Bool) : List Char := if raw then ['r', '#'] else []

/-- **Names**: words that are no keywords, or any words if they are raw. -/
structure Identifier extends Word where
  raw : Bool
  free : raw = false → ∀ k ∈ keywords, k.toList ≠ toWord.text

/-- A name as it is written, with the mark of a raw one. -/
def Identifier.text (n : Identifier) : List Char := rawMark n.raw ++ n.toWord.text

/-- **What can stand between the quotes of a character**: the character, or an escape. -/
inductive IsCharacter : List Char → Prop where
  | nil : IsCharacter []
  | plain {c : Char} : c ≠ '\'' → c ≠ '\\' → IsCharacter [c]
  | escape {c : Char} {rest : List Char} : IsQuoted '\'' rest → IsCharacter ('\\' :: c :: rest)

/-- What raw strings begin with. -/
def rawFronts : List String := ["r", "br", "cr"]

/-- What stands behind the letters of a raw string. -/
def rawBack (hashes : Nat) (body : List Char) : List Char :=
  List.replicate hashes '#' ++ '"' :: (body ++ '"' :: List.replicate hashes '#')

/-- **The marks**, brackets among them.  An operator of several characters is a row of marks, but for
those that hold an angle bracket that is none, or an exclamation mark that is none. -/
def marks : List String :=
  ["+", "-", "*", "/", "%", "^", "!", "&", "|", "=", "<", ">", "@", ".", ",", ";", ":", "#", "$", "?",
    "~", "->", "=>", "!=", "(", ")", "[", "]", "\x7b", "\x7d"]

/-- **The tokens of a file.**  A number with a point or a sign in it is a row of numerals and marks.  The
letter before a byte string or a byte is a name of its own. -/
inductive Symbol where
  | name (n : Identifier)
  | keyword (text : String) (known : text ∈ keywords)
  | numeral (digit : Char) (back : List Char) (decimal : digit.isDigit)
      (letters : ∀ c ∈ back, isWordChar c)
  | lifetime (raw : Bool) (w : Word)
  | character (body : List Char) (single : IsCharacter body)
  | string (body : List Char) (quoted : IsQuoted '"' body)
  | rawString (front : String) (known : front ∈ rawFronts) (hashes : Nat) (body : List Char)
      (unclosed : ¬ ('"' :: List.replicate hashes '#') <:+: body)
  | mark (text : String) (known : text ∈ marks)

/-- Whether a raw string goes on with some text, behind the letters in front of it. -/
def opensRawString (after : List Char) : Bool := (after.dropWhile (· == '#')).head? == some '"'

/-- Whether a raw name goes on with some text, behind the letter in front of it. -/
def opensRawName : List Char → Bool
  | '#' :: c :: _ => isWordChar c
  | _ => false

/-- Marks with characters that would belong to them. -/
def joined : List (String × Char) := [("-", '>'), ("=", '>'), ("!", '='), ("/", '/'), ("/", '*')]

namespace Symbol

/-- A symbol as it is written. -/
def text : Symbol → List Char
  | name n => n.text
  | keyword text _ => text.toList
  | numeral digit back _ _ => digit :: back
  | lifetime raw w => '\'' :: (rawMark raw ++ w.text)
  | character body _ => '\'' :: (body ++ ['\''])
  | string body _ => '"' :: (body ++ ['"'])
  | rawString front _ hashes body _ => front.toList ++ rawBack hashes body
  | mark text _ => text.toList

/-- What a symbol is to the search. -/
def kind : Symbol → LexemeKind
  | name _ | keyword _ _ | numeral _ _ _ _ => .word
  | lifetime _ _ | character _ _ | string _ _ | rawString _ _ _ _ _ => .literal
  | mark _ _ => .mark

/-- **Whether a symbol ends before some text.**  It would be longer if it were a word before a letter or
what a raw string or a raw name goes on with, a lifetime before a quote, or a mark before a character that
belongs to it. -/
def ends (after : List Char) : Symbol → Bool
  | name n =>
      !after.head?.any isWordChar
        && !(rawFronts.any (fun front => front.toList == n.text) && opensRawString after)
        && !(n.text == ['r'] && opensRawName after)
  | keyword _ _ | numeral _ _ _ _ => !after.head?.any isWordChar
  | lifetime raw w =>
      !after.head?.any (fun c => isWordChar c || c == '\'')
        && !(rawMark raw ++ w.text == ['r'] && opensRawName after)
  | character _ _ | string _ _ | rawString _ _ _ _ _ => true
  | mark text _ => joined.all fun j => !(j.1 == text && after.head? == some j.2)

/-- A symbol as a scan meets it. -/
def part (s : Symbol) : Script.Part := ⟨s.kind, s.text, fun after => s.ends after⟩

/-- The word that functions, signatures and pointer types begin with. -/
def fn : Symbol := .keyword "fn" (by decide)

/-- The mark of attributes. -/
def hash : Symbol := .mark "#" (by decide)

/-- The mark behind the name of a macro. -/
def bang : Symbol := .mark "!" (by decide)

/-- The angle bracket that opens. -/
def less : Symbol := .mark "<" (by decide)

/-- The angle bracket that closes. -/
def greater : Symbol := .mark ">" (by decide)

/-- The mark that ends a signature. -/
def semicolon : Symbol := .mark ";" (by decide)

/-- The bracket that opens. -/
def opening : Bracket → Symbol
  | .round => .mark "(" (by decide)
  | .square => .mark "[" (by decide)
  | .curly => .mark "\x7b" (by decide)

/-- The bracket that closes. -/
def closing : Bracket → Symbol
  | .round => .mark ")" (by decide)
  | .square => .mark "]" (by decide)
  | .curly => .mark "\x7d" (by decide)

/-- Whether a symbol could name a macro: a word that is no keyword. -/
def CouldCall : Symbol → Prop
  | name _ | numeral _ _ _ _ => True
  | _ => False

instance : (s : Symbol) → Decidable s.CouldCall
  | name _ | numeral _ _ _ _ => inferInstanceAs (Decidable True)
  | keyword _ _ | lifetime _ _ | character _ _ | string _ _ | rawString _ _ _ _ _ | mark _ _ =>
      inferInstanceAs (Decidable False)

end Symbol

/-- A symbol with the gap before it. -/
abbrev Piece := Script.Piece Gap Symbol

/-! ## Rows -/

/-- **Where a row stands.** -/
inductive Level where
  | code
  /-- Between the name of a function and its body, or the semicolon in place of one. -/
  | header
  /-- Between angle brackets in a header. -/
  | angles
  /-- In a token tree. -/
  | tokens
  deriving DecidableEq

namespace Level

/-- The symbols that stand nowhere but in pairs. -/
def brackets : List String := ["(", ")", "[", "]", "\x7b", "\x7d"]

/-- **The symbols that do not stand by themselves** in a row: in code these are `fn` and the mark of
attributes, and in a header the angle brackets as well as the semicolon, which would end it. -/
def barred : Level → List String
  | tokens => brackets
  | code => brackets ++ ["fn", "#"]
  | header | angles => brackets ++ ["fn", "#", ";", "<", ">"]

/-- Whether a symbol can stand by itself. -/
def Admits (l : Level) (s : Symbol) : Prop := ∀ b ∈ l.barred, b.toList ≠ s.text

instance (l : Level) (s : Symbol) : Decidable (l.Admits s) :=
  inferInstanceAs (Decidable (∀ b ∈ l.barred, b.toList ≠ s.text))

/-- Whether a bracketed row can stand by itself.  In a header a block would be the body. -/
def Encloses (l : Level) (b : Bracket) : Prop := l = header → b ≠ .curly

instance (l : Level) (b : Bracket) : Decidable (l.Encloses b) :=
  inferInstanceAs (Decidable (l = header → b ≠ .curly))

/-- What stands between brackets: code, but for those in a token tree. -/
def within : Level → Level
  | tokens => tokens
  | _ => code

end Level

/-- **A row of a file.**  An attribute may be of what it stands in, and then has an exclamation mark. -/
inductive Row : Level → Type where
  | nil {l : Level} : Row l
  | symbol {l : Level} (gap : Gap) (s : Symbol) (admitted : l.Admits s) (rest : Row l) : Row l
  | group {l : Level} (gap : Gap) (b : Bracket) (enclosed : l.Encloses b) (inner : Row l.within)
      (close : Gap) (rest : Row l) : Row l
  | angled {l : Level} (inHeader : l = .header ∨ l = .angles) (gap : Gap) (inner : Row .angles)
      (close : Gap) (rest : Row l) : Row l
  | attributed {l : Level} (inCode : l ≠ .tokens) (gap : Gap) (inward : Option Gap) (start : Gap)
      (tree : Row .tokens) (close : Gap) (rest : Row l) : Row l
  | call {l : Level} (inCode : l ≠ .tokens) (gap : Gap) (name : Identifier) (bang start : Gap)
      (b : Bracket) (tree : Row .tokens) (close : Gap) (rest : Row l) : Row l
  | pointer {l : Level} (inCode : l ≠ .tokens) (gap start : Gap) (params : Row .code) (close : Gap)
      (rest : Row l) : Row l
  | rules (gap bang nameGap : Gap) (name : Identifier) (start : Gap) (b : Bracket)
      (tree : Row .tokens) (close : Gap) (rest : Row .code) : Row .code
  | function (gap nameGap : Gap) (name : Identifier) (header : Row .header) (start : Gap)
      (body : Row .code) (close : Gap) (rest : Row .code) : Row .code
  | signature (gap nameGap : Gap) (name : Identifier) (header : Row .header) (stop : Gap)
      (rest : Row .code) : Row .code

/-- The name that rules of macros are given under. -/
def macroRules : Identifier :=
  ⟨⟨'m', "acro_rules".toList, by decide, by decide⟩, false, by decide⟩

namespace Row

/-- A bracketed row, and what stands behind it. -/
def enclosed (gap : Gap) (b : Bracket) (inner : List Piece) (close : Gap) (rest : List Piece) :
    List Piece :=
  ⟨gap, .opening b⟩ :: (inner ++ ⟨close, .closing b⟩ :: rest)

/-- The pieces of a row, from left to right. -/
def pieces {l : Level} : Row l → List Piece
  | nil => []
  | symbol gap s _ rest => ⟨gap, s⟩ :: rest.pieces
  | group gap b _ inner close rest => enclosed gap b inner.pieces close rest.pieces
  | angled _ gap inner close rest => ⟨gap, .less⟩ :: (inner.pieces ++ ⟨close, .greater⟩ :: rest.pieces)
  | attributed _ gap inward start tree close rest =>
      ⟨gap, .hash⟩ :: (inward.toList.map (⟨·, .bang⟩)
        ++ enclosed start .square tree.pieces close rest.pieces)
  | call _ gap name bang start b tree close rest =>
      ⟨gap, .name name⟩ :: ⟨bang, .bang⟩ :: enclosed start b tree.pieces close rest.pieces
  | pointer _ gap start params close rest =>
      ⟨gap, .fn⟩ :: enclosed start .round params.pieces close rest.pieces
  | rules gap bang nameGap name start b tree close rest =>
      ⟨gap, .name macroRules⟩ :: ⟨bang, .bang⟩ :: ⟨nameGap, .name name⟩
        :: enclosed start b tree.pieces close rest.pieces
  | function gap nameGap name header start body close rest =>
      ⟨gap, .fn⟩ :: ⟨nameGap, .name name⟩
        :: (header.pieces ++ enclosed start .curly body.pieces close rest.pieces)
  | signature gap nameGap name header stop rest =>
      ⟨gap, .fn⟩ :: ⟨nameGap, .name name⟩ :: (header.pieces ++ ⟨stop, .semicolon⟩ :: rest.pieces)

/-- A row as it is written. -/
def text {l : Level} (r : Row l) : List Char := Script.text Gap.text Symbol.part r.pieces

/-- Whether a row begins with an exclamation mark. -/
def BeginsBang {l : Level} : Row l → Prop
  | symbol _ s _ _ => s.text = ['!']
  | _ => False

instance {l : Level} : (r : Row l) → Decidable r.BeginsBang
  | symbol _ s _ _ => inferInstanceAs (Decidable (s.text = ['!']))
  | nil | group _ _ _ _ _ _ | angled _ _ _ _ _ | attributed _ _ _ _ _ _ _ | call _ _ _ _ _ _ _ _ _
  | pointer _ _ _ _ _ _ | rules _ _ _ _ _ _ _ _ _ | function _ _ _ _ _ _ _ _
  | signature _ _ _ _ _ _ => inferInstanceAs (Decidable False)

/-- **Whether exclamation marks are clear**: behind a word that is no keyword one stands in the call of a
macro only.  Token trees are left out. -/
def Clear {l : Level} : Row l → Prop
  | nil => True
  | symbol _ s _ rest => (s.CouldCall → ¬ rest.BeginsBang) ∧ rest.Clear
  | group _ _ _ inner _ rest | angled _ _ inner _ rest => inner.Clear ∧ rest.Clear
  | attributed _ _ _ _ _ _ rest | call _ _ _ _ _ _ _ _ rest | rules _ _ _ _ _ _ _ _ rest => rest.Clear
  | pointer _ _ _ params _ rest => params.Clear ∧ rest.Clear
  | function _ _ _ header _ body _ rest =>
      ¬ header.BeginsBang ∧ header.Clear ∧ body.Clear ∧ rest.Clear
  | signature _ _ _ header _ rest => ¬ header.BeginsBang ∧ header.Clear ∧ rest.Clear

instance decidableClear : {l : Level} → (r : Row l) → Decidable r.Clear
  | _, nil => inferInstanceAs (Decidable True)
  | _, symbol _ s _ rest =>
      have := decidableClear rest
      inferInstanceAs (Decidable ((s.CouldCall → ¬ rest.BeginsBang) ∧ rest.Clear))
  | _, group _ _ _ inner _ rest =>
      have := decidableClear inner
      have := decidableClear rest
      inferInstanceAs (Decidable (inner.Clear ∧ rest.Clear))
  | _, angled _ _ inner _ rest =>
      have := decidableClear inner
      have := decidableClear rest
      inferInstanceAs (Decidable (inner.Clear ∧ rest.Clear))
  | _, attributed _ _ _ _ _ _ rest => decidableClear rest
  | _, call _ _ _ _ _ _ _ _ rest => decidableClear rest
  | _, rules _ _ _ _ _ _ _ _ rest => decidableClear rest
  | _, pointer _ _ _ params _ rest =>
      have := decidableClear params
      have := decidableClear rest
      inferInstanceAs (Decidable (params.Clear ∧ rest.Clear))
  | _, function _ _ _ header _ body _ rest =>
      have := decidableClear header
      have := decidableClear body
      have := decidableClear rest
      inferInstanceAs (Decidable (¬ header.BeginsBang ∧ header.Clear ∧ body.Clear ∧ rest.Clear))
  | _, signature _ _ _ header _ rest =>
      have := decidableClear header
      have := decidableClear rest
      inferInstanceAs (Decidable (¬ header.BeginsBang ∧ header.Clear ∧ rest.Clear))

/-- **The names of the functions with a body**, at any depth and in the order of the row.  Signatures and
token trees define nothing; blocks in a header may. -/
def names {l : Level} : Row l → List (List Char)
  | nil => []
  | symbol _ _ _ rest => rest.names
  | group _ _ _ inner _ rest | angled _ _ inner _ rest => inner.names ++ rest.names
  | attributed _ _ _ _ _ _ rest | call _ _ _ _ _ _ _ _ rest | rules _ _ _ _ _ _ _ _ rest => rest.names
  | pointer _ _ _ params _ rest => params.names ++ rest.names
  | function _ _ name header _ body _ rest =>
      name.text :: (header.names ++ (body.names ++ rest.names))
  | signature _ _ _ header _ rest => header.names ++ rest.names

end Row

/-! ## Files -/

/-- **Whether a file is opened as it says.**  A line for the interpreter ends with its line, and an attribute
at the start has its bracket right behind the two characters that such a line begins with. -/
def Opened (marked : Bool) (rest : List Char) : Option (List Char) → Prop
  | some body => '\n' ∉ body ∧ body.head? ≠ some '[' ∧ ∀ c ∈ rest.head?, c = '\n'
  | none =>
      (['#', '!'] <+: rest → ['#', '!', '['] <+: rest)
        ∧ (marked = false → rest.head? ≠ some '\uFEFF')

/-- A line for the interpreter as it is written. -/
def shebangText : Option (List Char) → List Char
  | some body => '#' :: '!' :: body
  | none => []

/-- **A file of Rust**, in any layout. -/
structure File where
  /-- Whether a byte order mark stands at the start. -/
  marked : Bool
  /-- The line for the interpreter, behind its two characters. -/
  shebang : Option (List Char)
  code : Row .code
  ending : Ending
  apart : Script.Apart Gap.text Symbol.part ending.text code.pieces
  clear : code.Clear
  opened : Opened marked (code.text ++ ending.text) shebang

/-- What stands only at the start of a file. -/
def File.front (f : File) : List Char :=
  (if f.marked then ['\uFEFF'] else []) ++ shebangText f.shebang

/-- **A file as it is written.** -/
def File.text (f : File) : List Char := f.front ++ (f.code.text ++ f.ending.text)

end FunctionChurn.Source.Rust
