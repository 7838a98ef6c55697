import FunctionChurn.Text.Blank

/-!
# Whole numbers as text

A count may come from the command line or from a settings file, and is then a text.  The reader
here takes what an operator would type: spacing around it, a sign, digits of any script, and single
underscores between two digits.

* `Integer.read?` reads a whole number.
* `Integer.digits?` is the part behind the sign.
* `Integer.show?` writes one, within the same limit.

Numbers of more than `Integer.digitLimit` digits are neither read nor written: reading decimal
digits takes quadratic time, and no count is that long.
-/

namespace FunctionChurn.Integer

/-- The most decimal digits that a number read from text, or written as text, may have. -/
def digitLimit : Nat := 4300

/-- **Digits with single underscores between them.**  The list begins with a digit; every underscore
is followed by one. -/
def digits? : List Char → Option (List Nat)
  | [] => none
  | [c] => (Text.digitValue? c).map ([·])
  | c :: '_' :: rest => do
      let d ← Text.digitValue? c
      return d :: (← digits? rest)
  | c :: rest => do
      let d ← Text.digitValue? c
      return d :: (← digits? rest)

/-- The number that a list of digits stands for, the first digit being the most significant. -/
def ofDigits (base : Nat) (ds : List Nat) : Nat := ds.foldl (fun n d => n * base + d) 0

/-- Digits as a number, within the limit. -/
def natural? (cs : List Char) : Option Nat := do
  let ds ← digits? cs
  if ds.length ≤ digitLimit then return ofDigits 10 ds else none

/-- A sign and digits. -/
def signed? : List Char → Option Int
  | '-' :: rest => (natural? rest).map fun n : Nat => -(n : Int)
  | '+' :: rest => (natural? rest).map fun n : Nat => (n : Int)
  | cs => (natural? cs).map fun n : Nat => (n : Int)

/-- **A whole number in a text**, spacing around it allowed. -/
def read? (s : String) : Option Int := signed? (Text.unspaced s.toList)

/-- Whether a number has at most `digitLimit` digits. -/
def isShort (n : Int) : Bool := n.natAbs < Nat.pow 10 digitLimit

/-- **A whole number as text**, if it is short enough to be written. -/
def show? (n : Int) : Option String := if isShort n then some (toString n) else none

/-- `n` in decimal, filled up with zeros to `width` digits. -/
def padded (width n : Nat) : String :=
  let digits := Nat.toDigits 10 n
  String.ofList (List.replicate (width - digits.length) '0' ++ digits)

end FunctionChurn.Integer
