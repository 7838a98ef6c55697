import FunctionChurn.Decimal.Integer
import FunctionChurn.Decimal.Shortest

/-!
# Numbers with a fraction as text

* `Fraction.read?` reads a number: digits with a point among them and a power of ten behind them,
  or one of the words for infinity and for no number.
* `Fraction.show` writes one with the fewest digits that read back.

Numbers from `0.0001` up to ten to the sixteenth are written with the point in its place, and always
with a digit behind it; the others with a power of ten of at least two digits.
-/

namespace FunctionChurn.Fraction

/-! ## Reading -/

/-- Beyond this power of ten every number is zero or infinite. -/
def exponentBound : Int := 400

/-- Infinity. -/
def infinity : Float := 1.0 / 0.0

/-- What is no number. -/
def notANumber : Float := 0.0 / 0.0

/-- **Digits times a power of ten**, rounded to the nearest number. -/
def ofDecimal (digits : Nat) (exponent : Int) : Float :=
  if digits = 0 then 0.0
  else
    let top := exponent + (Nat.toDigits 10 digits).length
    if exponentBound < top then infinity
    else if top < -exponentBound then 0.0
    else Float.ofScientific digits (exponent < 0) exponent.natAbs

/-- Digits from the front of a text, and the rest. -/
def leadingDigits (cs : List Char) : List Nat × List Char :=
  let front := cs.takeWhile fun c => (Text.digitValue? c).isSome
  (front.filterMap Text.digitValue?, cs.drop front.length)

/-- A power of ten: nothing, or a letter and a number. -/
def exponent? : List Char → Option Int
  | [] => some 0
  | e :: rest =>
      if e = 'e' ∨ e = 'E' then
        let (negative, body) := match rest with
          | '-' :: more => (true, more)
          | '+' :: more => (false, more)
          | _ => (false, rest)
        match leadingDigits body with
        | ([], _) => none
        | (ds, []) =>
            let n : Int := Integer.ofDigits 10 ds
            some (if negative then -n else n)
        | _ => none
      else none

/-- A number without a sign. -/
def unsigned? (cs : List Char) : Option Float :=
  match String.ofList (cs.map Char.toLower) with
  | "inf" => some infinity
  | "infinity" => some infinity
  | "nan" => some notANumber
  | _ =>
      let (whole, rest) := leadingDigits cs
      let (fraction, rest) := match rest with
        | '.' :: more => leadingDigits more
        | _ => ([], rest)
      if whole = [] ∧ fraction = [] then none
      else (exponent? rest).map fun e =>
        ofDecimal (Integer.ofDigits 10 (whole ++ fraction)) (e - fraction.length)

/-- **A number in a text**, spacing around it allowed. -/
def read? (s : String) : Option Float :=
  match Text.unspaced s.toList with
  | '-' :: rest => (unsigned? rest).map fun x => -x
  | '+' :: rest => unsigned? rest
  | cs => unsigned? cs

/-! ## Writing -/

/-- The least place of the point that is still written in its place. -/
def leastPlace : Int := -3

/-- The greatest such place. -/
def greatestPlace : Int := 16

/-- The digits of a power of ten, at least two. -/
def exponentText (e : Int) : List Char :=
  (if e < 0 then '-' else '+') :: (Integer.padded 2 e.natAbs).toList

/-- **Digits with the point at a place.** -/
def placed (ds : List Char) (point : Int) : List Char :=
  let zeros (n : Int) := List.replicate n.toNat '0'
  if point < leastPlace ∨ greatestPlace < point then
    let power := 'e' :: exponentText (point - 1)
    match ds with
    | [d] => d :: power
    | d :: more => d :: '.' :: (more ++ power)
    | [] => power
  else if point ≤ 0 then '0' :: '.' :: (zeros (-point) ++ ds)
  else
    let whole := ds.take point.toNat ++ zeros (point - ds.length)
    match ds.drop point.toNat with
    | [] => whole ++ ['.', '0']
    | fraction => whole ++ '.' :: fraction

/-- **A number as text**, given its bits. -/
def showBits (bits : Nat) : String :=
  let negative := Nat.pow 2 63 ≤ bits
  let magnitude := bits % Nat.pow 2 63
  let sign := if negative then ['-'] else []
  match Binary.ofBits? magnitude with
  | some b => String.ofList (sign ++ placed b.shortest.1 b.shortest.2)
  | none =>
      if magnitude = 0 then String.ofList (sign ++ ['0', '.', '0'])
      else if magnitude = 2047 * Nat.pow 2 Binary.storedBits then
        String.ofList (sign ++ ['i', 'n', 'f'])
      else "nan"

/-- **A number with the fewest digits that read back.** -/
def «show» (x : Float) : String := showBits x.toBits.toNat

end FunctionChurn.Fraction
