import FunctionChurn.Text.Blank

/-!
# Lexemes of a source file

A source file is cut into lexemes before anything is looked for in it, so that a word in a comment
or a bracket in a string cannot be mistaken for code.  Nothing is lost by the cutting: comments
and blanks are lexemes too, and the lexemes put together are the file (`Lexis.flatten_scan`).

* `Lexeme` is a stretch of a file with its kind.
* `Lexis` holds the lexical rules of a language: the kind and the length of the first lexeme.
* `Lexis.lexemes` cuts a whole file.

The lengths that several languages share stand at the end: to the end of the line, through a closing
mark, and through a closing quote with escapes before it.
-/

namespace FunctionChurn.Source

/-- What a lexeme is to somebody who looks for declarations. -/
inductive LexemeKind where
  | blank
  | comment
  /-- A string, a character, or anything else that is a value and no name. -/
  | literal
  /-- A name, a keyword or a number. -/
  | word
  /-- An operator, a bracket or a separator. -/
  | mark
  deriving DecidableEq, Repr

/-- **A stretch of a source file.** -/
structure Lexeme where
  kind : LexemeKind
  text : List Char
  deriving DecidableEq, Repr

/-- **The lexical rules of a language.**  `first` is given the character that a lexeme begins with
and all that follows it; it tells the kind, and how many of the characters that follow still
belong to the lexeme.  `opening` is the length of what stands only at the very start of a file. -/
structure Lexis where
  opening : List Char → Nat
  first : Char → List Char → LexemeKind × Nat

namespace Lexis

/-- **The lexemes of a text**, from left to right. -/
def scan (l : Lexis) : List Char → List Lexeme
  | [] => []
  | c :: rest =>
      ⟨(l.first c rest).1, c :: rest.take (l.first c rest).2⟩
        :: l.scan (rest.drop (l.first c rest).2)
termination_by cs => cs.length
decreasing_by simp only [List.length_cons, List.length_drop]; omega

/-- The lexemes put together are the text. -/
theorem flatten_scan (l : Lexis) (cs : List Char) :
    (l.scan cs).flatMap Lexeme.text = cs := by
  fun_induction l.scan cs with
  | case1 => rfl
  | case2 c rest ih =>
    rw [List.flatMap_cons, ih, List.cons_append, List.take_append_drop]

/-- What is skipped at the start of a file: a byte order mark, and then the language's own
opening. -/
def openingLength (l : Lexis) : List Char → Nat
  | '\uFEFF' :: rest => 1 + l.opening rest
  | cs => l.opening cs

/-- **The lexemes of a file.**  Its opening, if there is one, is a blank. -/
def lexemes (l : Lexis) (source : List Char) : List Lexeme :=
  let n := l.openingLength source
  ⟨.blank, source.take n⟩ :: l.scan (source.drop n)

/-- The lexemes of a file put together are the file. -/
theorem flatten_lexemes (l : Lexis) (source : List Char) :
    (l.lexemes source).flatMap Lexeme.text = source := by
  rw [lexemes, List.flatMap_cons, flatten_scan, List.take_append_drop]

end Lexis

/-! ## Lengths -/

/-- How many characters stand before the next line feed. -/
def lineLength (cs : List Char) : Nat := (cs.takeWhile (· != '\n')).length

/-- How many characters from the front are of a class. -/
def runLength (p : Char → Bool) (cs : List Char) : Nat := (cs.takeWhile p).length

/-- How many characters there are up to the end of the first `stop`, or to the end. -/
def throughLength (stop : List Char) : List Char → Nat
  | [] => 0
  | c :: rest =>
      if stop.isPrefixOf (c :: rest) then stop.length else 1 + throughLength stop rest

/-- How many characters there are through the closing quote.  A backslash takes the character behind
it along. -/
def quotedLength (mark : Char) : List Char → Nat
  | [] => 0
  | [_] => 1
  | c :: d :: rest =>
      if c = mark then 1
      else if c = '\\' then 2 + quotedLength mark rest
      else 1 + quotedLength mark (d :: rest)

/-- A letter, a digit or an underscore of ASCII, or anything outside ASCII that is no spacing. -/
def isWordChar (c : Char) : Bool :=
  c.isAlphanum || c == '_' || ('\x7f' < c && !Text.isSpacing c)

end FunctionChurn.Source
