/-!
# The fewest digits that read back

A number with a fraction is kept as a binary fraction, `m · 2 ^ q`.  It is written in decimal with
as few digits as possible, so that whoever reads them and rounds to the nearest binary fraction
gets the same number again; of two such texts with equally many digits the nearer one is taken.

* `Ratio` is an exact positive fraction, `Binary` a binary fraction with the ends of the interval of
  numbers that are rounded to it.
* `Binary.shortest` gives the digits and the place of the point.
* `Binary.ofFloat?` takes a floating-point number apart.

The digits are searched grid by grid: first the numbers with one digit, then those with two, and
so on. On each grid only the two neighbours of the number need to be tried, because if any point
of the grid lies in the interval then one of them does.
-/

namespace FunctionChurn

/-- **An exact fraction**, its denominator not zero. -/
structure Ratio where
  num : Nat
  den : Nat

namespace Ratio

/-- A natural number times a power of two. -/
def binary (m : Nat) (q : Int) : Ratio :=
  if q < 0 then ⟨m, Nat.pow 2 (-q).toNat⟩ else ⟨m * Nat.pow 2 q.toNat, 1⟩

/-- A natural number times a power of ten. -/
def decimal (d : Nat) (k : Int) : Ratio :=
  if k < 0 then ⟨d, Nat.pow 10 (-k).toNat⟩ else ⟨d * Nat.pow 10 k.toNat, 1⟩

/-- Order of fractions. -/
def le (a b : Ratio) : Bool := a.num * b.den ≤ b.num * a.den

/-- Strict order of fractions. -/
def lt (a b : Ratio) : Bool := a.num * b.den < b.num * a.den

/-- The distance of two fractions. -/
def distance (a b : Ratio) : Ratio :=
  let x := a.num * b.den
  let y := b.num * a.den
  ⟨if x ≤ y then y - x else x - y, a.den * b.den⟩

/-- How often `10 ^ k` goes into a fraction. -/
def quotient (a : Ratio) (k : Int) : Nat :=
  if k < 0 then a.num * Nat.pow 10 (-k).toNat / a.den else a.num / (a.den * Nat.pow 10 k.toNat)

/-- The number of digits before the point, or less the number of zeros behind it: the least `k` with
the fraction below `10 ^ k`. -/
def magnitude (a : Ratio) : Int :=
  if a.den ≤ a.num then ((Nat.toDigits 10 (a.num / a.den)).length : Int)
  else
    let zeros := (Nat.toDigits 10 (a.den / a.num)).length - 1
    if a.num * Nat.pow 10 zeros < a.den then -(zeros : Int) else 1 - (zeros : Int)

end Ratio

/-- **A positive binary fraction** with the interval of the numbers that are rounded to it.  The
ends belong to it if `closed`. -/
structure Binary where
  value : Ratio
  low : Ratio
  high : Ratio
  closed : Bool

namespace Binary

/-- Whether a fraction is rounded to the number. -/
def holds (b : Binary) (r : Ratio) : Bool :=
  if b.closed then b.low.le r && r.le b.high else b.low.lt r && r.lt b.high

/-- Of two neighbours on a grid that are both rounded to the number, the nearer one; between two
that are equally near, the even one. -/
def nearer (b : Binary) (d : Nat) (k : Int) : Nat :=
  let below := b.value.distance (.decimal d k)
  let above := b.value.distance (.decimal (d + 1) k)
  if below.lt above then d else if above.lt below then d + 1 else if d % 2 = 0 then d else d + 1

/-- The digits on the grid of multiples of `10 ^ k`, if some are rounded to the number. -/
def onGrid (b : Binary) (k : Int) : Option Nat :=
  let d := b.value.quotient k
  match b.holds (.decimal d k), b.holds (.decimal (d + 1) k) with
  | true, true => some (b.nearer d k)
  | true, false => some d
  | false, true => some (d + 1)
  | false, false => none

/-- The most digits that are ever needed. -/
def digitBound : Nat := 17

/-- The first grid with a hit, beginning with so many digits. -/
def search (b : Binary) (magnitude : Int) : (tries digits : Nat) → Nat × Int
  | 0, digits => (b.value.quotient (magnitude - digits), magnitude - digits)
  | n + 1, digits =>
      match b.onGrid (magnitude - digits) with
      | some d => (d, magnitude - digits)
      | none => search b magnitude n (digits + 1)

/-- Digits without the zeros at their end. -/
def trimZeros (ds : List Char) : List Char := (ds.reverse.dropWhile (· = '0')).reverse

/-- **The fewest digits that read back**, and the place of the point: the number is `0.` and the
digits, times ten to that power. -/
def shortest (b : Binary) : List Char × Int :=
  let (d, k) := b.search b.value.magnitude digitBound 1
  let ds := Nat.toDigits 10 d
  (trimZeros ds, k + ds.length)

/-- The number of bits of a fraction that are stored. -/
def storedBits : Nat := 52

/-- **A positive floating-point number taken apart**, given its bits without the sign.  There is
none for zero and for what is not finite. -/
def ofBits? (bits : Nat) : Option Binary :=
  let exponent := bits / Nat.pow 2 storedBits
  let stored := bits % Nat.pow 2 storedBits
  if bits = 0 ∨ exponent = 2047 then none
  else
    let m := if exponent = 0 then stored else stored + Nat.pow 2 storedBits
    let q : Int := (if exponent = 0 then 1 else (exponent : Int)) - 1075
    let low := if stored = 0 ∧ 1 < exponent then Ratio.binary (4 * m - 1) (q - 2)
      else Ratio.binary (2 * m - 1) (q - 1)
    some ⟨.binary m q, low, .binary (2 * m + 1) (q - 1), m % 2 == 0⟩

end Binary

end FunctionChurn
