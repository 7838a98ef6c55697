/-!
# A place in a YAML text

Indentation carries meaning in YAML, so whoever reads a text has to know the column as well as what
is left of it.

* `Cursor` is a place: what is left, how many characters were taken, and the line and column.
* `Cursor.advance` and `Cursor.advanceBy` move on.
* `isBreak`, `endsWord` and `endsLine` are the classes that decide where things end; the end of the
  text is in each of the last two.

The end of the text is seen as the null character, which no text that may be read holds.
-/

namespace FunctionChurn.Yaml

/-! ## Characters -/

/-- What is seen at the end of a text. -/
def endMark : Char := '\x00'

/-- **A line break.** -/
def isBreak (c : Char) : Bool :=
  c == '\n' || c == '\r' || c == '\u0085' || c == '\u2028' || c == '\u2029'

/-- A line break, or the end of the text. -/
def endsLine (c : Char) : Bool := c == endMark || isBreak c

/-- What may stand behind a word that no tab may follow: a space, a line break, or the end. -/
def endsField (c : Char) : Bool := c == ' ' || endsLine c

/-- **What ends a word**: a blank, a line break, or the end of the text. -/
def endsWord (c : Char) : Bool := c == '\t' || endsField c

/-- A letter, a digit, a dash or an underscore, of ASCII. -/
def isNameChar (c : Char) : Bool := c.isAlphanum || c == '-' || c == '_'

/-- Whether a text may hold a character: no control character but tab and line breaks, and neither
of the two code points that are no characters. -/
def isPrintable (c : Char) : Bool :=
  c == '\t' || c == '\n' || c == '\r' || (' ' ≤ c && c ≤ '~') || c == '\u0085'
    || ('\u00a0' ≤ c && c.toNat ≤ 0xFFFD) || 0x10000 ≤ c.toNat

/-- A line break as it is kept in a value: the two Unicode separators stay what they are. -/
def breakText (c : Char) : List Char :=
  if c == '\u2028' || c == '\u2029' then [c] else ['\n']

/-! ## Places -/

/-- **A place in a text.** -/
structure Cursor where
  rest : List Char
  index : Nat := 0
  line : Nat := 0
  column : Nat := 0

namespace Cursor

/-- The next character. -/
def peek (c : Cursor) : Char := c.rest.headD endMark

/-- The character behind `n` others. -/
def peekAt (c : Cursor) (n : Nat) : Char := (c.rest.drop n).headD endMark

/-- The place behind the next character.  A byte order mark takes no column. -/
def advance (c : Cursor) : Cursor :=
  match c.rest with
  | [] => c
  | ch :: rest =>
      if isBreak ch then ⟨rest, c.index + 1, c.line + 1, 0⟩
      else if ch == '\uFEFF' then ⟨rest, c.index + 1, c.line, c.column⟩
      else ⟨rest, c.index + 1, c.line, c.column + 1⟩

/-- The place behind several characters. -/
def advanceBy (c : Cursor) : Nat → Cursor
  | 0 => c
  | n + 1 => c.advance.advanceBy n

/-- The characters of a class from here on. -/
def run (p : Char → Bool) (c : Cursor) : List Char := c.rest.takeWhile p

/-- The place behind the characters of a class. -/
def skip (p : Char → Bool) (c : Cursor) : Cursor := c.advanceBy (c.run p).length

/-- The place behind the spaces. -/
def skipSpaces (c : Cursor) : Cursor := c.skip (· == ' ')

/-- The place behind a comment, if one begins here. -/
def skipComment (c : Cursor) : Cursor :=
  if c.peek == '#' then c.skip fun ch => !isBreak ch else c

/-- Whether three characters begin a line and stand alone. -/
def isMarker (ch : Char) (c : Cursor) : Bool :=
  c.peek == ch && c.peekAt 1 == ch && c.peekAt 2 == ch && endsWord (c.peekAt 3)

/-- Whether a document begins or ends here, the place being the start of a line. -/
def atSeparator (c : Cursor) : Bool := c.isMarker '-' || c.isMarker '.'

end Cursor

end FunctionChurn.Yaml
