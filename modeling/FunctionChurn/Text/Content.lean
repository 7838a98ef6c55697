import FunctionChurn.Text.Utf8

/-!
# The text of a text file

A file that is meant to be text is decoded, and its line ends are made one: a carriage return,
with or without a line feed behind it, counts as a line feed.
-/

namespace FunctionChurn.Text

/-- **Line ends made one.** -/
def unifyLineEnds : List Char → List Char
  | [] => []
  | '\r' :: '\n' :: rest => '\n' :: unifyLineEnds rest
  | '\r' :: rest => '\n' :: unifyLineEnds rest
  | c :: rest => c :: unifyLineEnds rest

/-- **The text of a text file.** -/
def ofContent (bytes : Bytes) : Except Utf8.Malformed (List Char) :=
  (Utf8.decode bytes).map unifyLineEnds

end FunctionChurn.Text
