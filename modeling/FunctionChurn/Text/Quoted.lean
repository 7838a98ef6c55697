import FunctionChurn.Text.Unprintable

/-!
# Quoted texts in messages

A path or an argument that a message names is put in quotes, with everything a reader could not
see or could mistake for the quotes written as an escape.

* `quote` writes a text in quotes: single ones, unless it holds a single quote and no double one.
* `escape` is the form of one character between a given pair of quotes.
-/

namespace FunctionChurn.Text

/-- `n` in lower-case hexadecimal, filled up with zeros to `width` digits. -/
def hexNumber (width n : Nat) : List Char :=
  let digits := Nat.toDigits 16 n
  List.replicate (width - digits.length) '0' ++ digits

/-- **One character between quotes.**  The quote itself and the backslash get a backslash, the three
common controls have letters, and what cannot be seen is given by number, in the shortest of the
three widths. -/
def escape (mark c : Char) : List Char :=
  if c = mark || c = '\\' then ['\\', c]
  else if c = '\n' then ['\\', 'n']
  else if c = '\r' then ['\\', 'r']
  else if c = '\t' then ['\\', 't']
  else if isUnprintable c then
    if c.toNat ≤ 0xFF then '\\' :: 'x' :: hexNumber 2 c.toNat
    else if c.toNat ≤ 0xFFFF then '\\' :: 'u' :: hexNumber 4 c.toNat
    else '\\' :: 'U' :: hexNumber 8 c.toNat
  else [c]

/-- The quote that a text is put in. -/
def quoteMark (cs : List Char) : Char :=
  if cs.contains '\'' && !cs.contains '"' then '"' else '\''

/-- **A text in quotes.** -/
def quote (s : String) : String :=
  let mark := quoteMark s.toList
  String.ofList (mark :: s.toList.flatMap (escape mark) ++ [mark])

end FunctionChurn.Text
