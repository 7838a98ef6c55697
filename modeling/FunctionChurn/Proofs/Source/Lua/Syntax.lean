import FunctionChurn.Proofs.Source.Reading
import FunctionChurn.Source.Lua

/-!
# Lua files as they are written

What functions a file of Lua names is said here by its structure and not by a search.  A file is a row of
symbols with gaps between them; brackets stand in pairs, and the word `function` begins a function with a
name or without one, wherever it stands.

* `Long` is a text between long brackets of some level, `Trivium` and `Gap` are what can stand between the
  symbols: blanks, comments to the end of the line, and long comments.
* `Symbol` are the tokens but `function`: words, numbers, strings and marks.  `Symbol.ends` says where a
  symbol ends and is not longer.
* `Path` is what a function statement names its function by: names with points between them, and the name of
  a method behind a colon.
* `Row` is the structure: between brackets, in the parameters of a function and in its body there are rows
  again.
* **`File`** is a file, `File.text` what is written in it, and `Row.names` are the names of the functions in
  it: of each path the last one.

Nothing is said about statements and expressions.  Other blocks than bodies are rows of symbols, with the
words that they begin and end with.
-/

namespace FunctionChurn.Source.Lua

open Go (IsQuoted Bracket)
open scoped Go

/-! ## Gaps -/

/-- Whether a long bracket opens here, behind a square bracket. -/
def opensLong (after : List Char) : Bool := (after.dropWhile (· == '=')).head? == some '['

/-- The opening bracket of a level. -/
def longOpen (level : Nat) : List Char := '[' :: (List.replicate level '=' ++ ['['])

/-- **A text between long brackets**: the closing one does not begin in it. -/
structure Long where
  level : Nat
  body : List Char
  unclosed : ¬ longClose level <:+: body ++ (longClose level).dropLast

/-- A text between long brackets as it is written. -/
def Long.text (b : Long) : List Char := longOpen b.level ++ (b.body ++ longClose b.level)

/-- Whether a comment is a long one, given what stands behind its dashes. -/
def isLong : List Char → Bool
  | '[' :: rest => opensLong rest
  | _ => false

/-- **What can stand between two symbols**: a blank, a comment through the character that ends its line, or a
long comment. -/
inductive Trivium where
  | blank (c : Char) (spacing : Text.isSpacing c)
  | line (body : List Char) (stop : Char) (inLine : ∀ c ∈ body, ¬ endsComment c) (short : isLong body = false)
      (stops : endsComment stop)
  | long (b : Long)

/-- A trivium as it is written. -/
def Trivium.text : Trivium → List Char
  | blank c _ => [c]
  | line body stop _ _ _ => '-' :: '-' :: (body ++ [stop])
  | long b => '-' :: '-' :: b.text

/-- **What stands between two symbols.** -/
abbrev Gap := List Trivium

/-- A gap as it is written. -/
def Gap.text (g : Gap) : List Char := g.flatMap Trivium.text

/-- **The gap at the end of a file**, where a comment need not be ended. -/
structure Ending where
  gap : Gap
  comment : Option (List Char)
  inLine : ∀ body ∈ comment, (∀ c ∈ body, ¬ endsComment c) ∧ isLong body = false

/-- The end of a file as it is written. -/
def Ending.text (e : Ending) : List Char :=
  e.gap.text ++ match e.comment with
    | some body => '-' :: '-' :: body
    | none => []

/-! ## Numbers -/

/-- The digits of a radix. -/
def isDigitIn (hex : Bool) (c : Char) : Bool := if hex then isHexDigit c else c.isDigit

/-- The letters that an exponent can begin with. -/
def exponentLetters (hex : Bool) : List Char := if hex then ['p', 'P'] else ['e', 'E']

/-- **Exponents**, with or without a sign. -/
structure Exponent where
  letter : Char
  sign : List Char
  digit : Char
  digits : List Char
  signed : sign ∈ [[], ['+'], ['-']]
  decimal : ∀ c ∈ digit :: digits, c.isDigit

/-- An exponent as it is written. -/
def Exponent.text (e : Exponent) : List Char :=
  e.letter :: (e.sign ++ e.digit :: e.digits)

/-- An exponent as it is written, if there is one. -/
def exponentText : Option Exponent → List Char
  | some e => e.text
  | none => []

/-- A fraction as it is written, if there is one. -/
def fractionText : Option (List Char) → List Char
  | some digits => '.' :: digits
  | none => []

/-- **Numbers** in decimal or hexadecimal, with a fraction, an exponent, or both.  A point in front of all
digits is a mark, and so are signs. -/
structure Number where
  /-- The letter of a hexadecimal number, behind its zero. -/
  radix : Option Char
  whole : List Char
  /-- What stands behind the point. -/
  fraction : Option (List Char)
  exponent : Option Exponent
  known : ∀ x ∈ radix, x ∈ ['x', 'X']
  lettered : ∀ e ∈ exponent, e.letter ∈ exponentLetters radix.isSome
  digits : ∀ c ∈ whole ++ fraction.getD [], isDigitIn radix.isSome c
  front : radix = none → whole ≠ []

namespace Number

/-- Whether a number is hexadecimal. -/
def hex (n : Number) : Bool := n.radix.isSome

/-- What a hexadecimal number begins with. -/
def radixText (n : Number) : List Char := n.radix.toList.flatMap fun x => ['0', x]

/-- A number as it is written. -/
def text (n : Number) : List Char :=
  n.radixText ++ (n.whole ++ fractionText n.fraction ++ exponentText n.exponent)

end Number

/-- A text behind the sign that it may begin with. -/
def unsigned : List Char → List Char
  | '+' :: rest | '-' :: rest => rest
  | cs => cs

/-- Whether an exponent opens here. -/
def opensExponent (hex : Bool) (after : List Char) : Bool :=
  after.head?.any (fun c => (exponentLetters hex).contains c)
    && (unsigned after.tail).head?.any Char.isDigit

/-- Whether a fraction opens here: two points are a mark. -/
def opensFraction (after : List Char) : Bool :=
  after.head? == some '.' && !(after.tail.head? == some '.')

/-- Whether digits, with a fraction or without one, end before some text: a fraction without digits ends before
no point. -/
def endsDigits (hex : Bool) (fraction : Option (List Char)) (after : List Char) : Bool :=
  !after.head?.any (isDigitIn hex) && match fraction with
    | some digits => !(digits.isEmpty && after.head? == some '.')
    | none => !opensFraction after

/-- **Whether a number ends before some text.**  With an exponent it would be longer before a digit; without
one, before a digit, an exponent or a fraction, and a zero before the letter of a radix. -/
def Number.ends (n : Number) (after : List Char) : Bool :=
  match n.exponent with
  | some _ => !after.head?.any Char.isDigit
  | none =>
      endsDigits n.hex n.fraction after && !opensExponent n.hex after
        && !(n.text == ['0'] && after.head?.any (fun c => c == 'x' || c == 'X'))

/-! ## Symbols -/

/-- **Words** other than `function`: names and keywords.  A word holds everything but blanks and marks, and
begins with no digit. -/
structure Word where
  front : Char
  back : List Char
  letter : isNameChar front ∧ ¬ front.isDigit
  letters : ∀ c ∈ back, isNameChar c
  free : front :: back ≠ "function".toList

/-- A word as it is written. -/
def Word.text (w : Word) : List Char := w.front :: w.back

/-- **The marks.**  An operator of several characters is a row of marks. -/
def marks : List Char :=
  ['+', '-', '*', '/', '%', '^', '#', '&', '~', '|', '<', '>', '=', '(', ')', '\x7b', '\x7d', '[', ']', ';',
    ':', ',', '.']

/-- The quotation marks. -/
def quotes : List Char := ['"', '\'']

/-- **The tokens of a file.** -/
inductive Symbol where
  | function
  | word (w : Word)
  | number (n : Number)
  | string (quote : Char) (known : quote ∈ quotes) (body : List Char) (quoted : IsQuoted quote body)
  | long (b : Long)
  | mark (c : Char) (known : c ∈ marks)

namespace Symbol

/-- A symbol as it is written. -/
def text : Symbol → List Char
  | function => "function".toList
  | word w => w.text
  | number n => n.text
  | string quote _ body _ => quote :: (body ++ [quote])
  | long b => b.text
  | mark c _ => [c]

/-- What a symbol is to the search. -/
def kind : Symbol → LexemeKind
  | function | word _ => .word
  | number _ | string _ _ _ _ | long _ => .literal
  | mark _ _ => .mark

/-- **Whether a symbol ends before some text.**  It would be longer if it were a word before a letter, a number
that goes on, a dash before another one, or a square bracket that begins a long one. -/
def ends (after : List Char) : Symbol → Bool
  | function | word _ => !after.head?.any isNameChar
  | number n => n.ends after
  | string _ _ _ _ | long _ => true
  | mark c _ => !(c == '-' && after.head? == some '-') && !(c == '[' && opensLong after)

/-- A symbol as a scan meets it. -/
def part (s : Symbol) : Script.Part := ⟨s.kind, s.text, fun after => s.ends after⟩

/-- The mark between the names of a path. -/
def point : Symbol := .mark '.' (by decide)

/-- The mark before the name of a method. -/
def colon : Symbol := .mark ':' (by decide)

/-- The bracket that opens. -/
def opening : Bracket → Symbol
  | .round => .mark '(' (by decide)
  | .square => .mark '[' (by decide)
  | .curly => .mark '\x7b' (by decide)

/-- The bracket that closes. -/
def closing : Bracket → Symbol
  | .round => .mark ')' (by decide)
  | .square => .mark ']' (by decide)
  | .curly => .mark '\x7d' (by decide)

/-- The word that a body ends with. -/
def stop : Symbol := .word ⟨'e', "nd".toList, by decide, by decide, by decide⟩

end Symbol

/-- A symbol with the gap before it. -/
abbrev Piece := Script.Piece Gap Symbol

/-! ## Paths -/

/-- A name behind a mark, with the gaps before the two. -/
structure Step where
  gap : Gap
  nameGap : Gap
  name : Word

/-- The pieces of a step with its mark. -/
def Step.pieces (mark : Symbol) (s : Step) : List Piece := [⟨s.gap, mark⟩, ⟨s.nameGap, .word s.name⟩]

/-- **What a function statement names its function by**: a name, fields of it, and a method. -/
structure Path where
  gap : Gap
  name : Word
  fields : List Step
  method : Option Step

/-- The pieces of a path. -/
def Path.pieces (p : Path) : List Piece :=
  ⟨p.gap, .word p.name⟩
    :: (p.fields.flatMap (Step.pieces .point) ++ p.method.toList.flatMap (Step.pieces .colon))

/-- **The last name of a path.** -/
def Path.last (p : Path) : Word :=
  ((p.fields ++ p.method.toList).map Step.name).getLastD p.name

/-! ## Rows -/

/-- The symbols that do not stand by themselves in a row. -/
def barred : List String := ["(", ")", "[", "]", "\x7b", "\x7d", "function"]

/-- Whether a symbol can stand by itself. -/
def Symbol.Admitted (s : Symbol) : Prop := ∀ b ∈ barred, b.toList ≠ s.text

instance (s : Symbol) : Decidable s.Admitted :=
  inferInstanceAs (Decidable (∀ b ∈ barred, b.toList ≠ s.text))

/-- **A row of a file.**  The body of a function stands before an `end`, and other blocks may have an `end`
too. -/
inductive Row where
  | nil
  | symbol (gap : Gap) (s : Symbol) (admitted : s.Admitted) (rest : Row)
  | group (gap : Gap) (b : Bracket) (inner : Row) (close : Gap) (rest : Row)
  | anonymous (gap start : Gap) (params : Row) (close : Gap) (body : Row) (stop : Gap) (rest : Row)
  | statement (gap : Gap) (path : Path) (start : Gap) (params : Row) (close : Gap) (body : Row) (stop : Gap)
      (rest : Row)

namespace Row

/-- A bracketed row, and what stands behind it. -/
def enclosed (gap : Gap) (b : Bracket) (inner : List Piece) (close : Gap) (rest : List Piece) :
    List Piece :=
  ⟨gap, .opening b⟩ :: (inner ++ ⟨close, .closing b⟩ :: rest)

/-- The pieces of a row, from left to right. -/
def pieces : Row → List Piece
  | nil => []
  | symbol gap s _ rest => ⟨gap, s⟩ :: rest.pieces
  | group gap b inner close rest => enclosed gap b inner.pieces close rest.pieces
  | anonymous gap start params close body stop rest =>
      ⟨gap, .function⟩
        :: enclosed start .round params.pieces close (body.pieces ++ ⟨stop, .stop⟩ :: rest.pieces)
  | statement gap path start params close body stop rest =>
      ⟨gap, .function⟩
        :: (path.pieces
          ++ enclosed start .round params.pieces close (body.pieces ++ ⟨stop, .stop⟩ :: rest.pieces))

/-- A row as it is written. -/
def text (r : Row) : List Char := Script.text Gap.text Symbol.part r.pieces

/-- **The names of the functions**, at any depth and in the order of the row: of each function statement the
last name of its path. -/
def names : Row → List (List Char)
  | nil => []
  | symbol _ _ _ rest => rest.names
  | group _ _ inner _ rest => inner.names ++ rest.names
  | anonymous _ _ params _ body _ rest => params.names ++ (body.names ++ rest.names)
  | statement _ path _ params _ body _ rest =>
      path.last.text :: (params.names ++ (body.names ++ rest.names))

end Row

/-! ## Files -/

/-- **Whether a file is opened as it says.**  A line for the interpreter ends with its line, and nothing else at
the start begins like one. -/
def Opened (marked : Bool) (rest : List Char) : Option (List Char) → Prop
  | some body => '\n' ∉ body ∧ ∀ c ∈ rest.head?, c = '\n'
  | none => rest.head? ≠ some '#' ∧ (marked = false → rest.head? ≠ some '\uFEFF')

/-- A line for the interpreter as it is written. -/
def shebangText : Option (List Char) → List Char
  | some body => '#' :: body
  | none => []

/-- **A file of Lua**, in any layout. -/
structure File where
  /-- Whether a byte order mark stands at the start. -/
  marked : Bool
  /-- The line for the interpreter, behind its first character. -/
  shebang : Option (List Char)
  code : Row
  ending : Ending
  apart : Script.Apart Gap.text Symbol.part ending.text code.pieces
  opened : Opened marked (code.text ++ ending.text) shebang

/-- What stands only at the start of a file. -/
def File.front (f : File) : List Char :=
  (if f.marked then ['\uFEFF'] else []) ++ shebangText f.shebang

/-- **A file as it is written.** -/
def File.text (f : File) : List Char := f.front ++ (f.code.text ++ f.ending.text)

end FunctionChurn.Source.Lua
