import FunctionChurn.Decimal.Fraction
import FunctionChurn.Text.Quoted
import FunctionChurn.Text.Search
import FunctionChurn.Text.Utf8
import FunctionChurn.Yaml.Moment

/-!
# Values of scalars

A scalar is a text with a tag, and the tag says what value the text stands for.

* `Tag.ofPlain` is the tag of a scalar that has none of its own and is not quoted.
* `ScalarValue` are the values of scalars.
* `ScalarValue.read` gives the value of a text under a tag, or a `LoadFault`.

Whole numbers can be written in four bases and in groups of sixty; numbers with a fraction in
groups of sixty too.  Underscores between digits do not count.
-/

namespace FunctionChurn.Yaml

/-! ## Faults -/

/-- **Why a text gives no value.** -/
inductive LoadFault where
  /-- It is no YAML, or says what cannot be. -/
  | malformed
  /-- A character is given by a number that is too great. -/
  | codePoint
  /-- A date or a time is impossible. -/
  | moment (f : MomentFault)
  /-- A number has so many decimal digits. -/
  | tooLong (digits : Nat)
  /-- A text is no whole number of a base. -/
  | notInteger (base : Nat) (text : String)
  | notNumber (text : String)
  /-- A number has no digit at all. -/
  | emptyNumber
  | notBoolean (text : String)
  | notMoment
  deriving DecidableEq, Repr

/-! ## Tags of plain scalars -/

/-- **The tag of a scalar that has none and is not quoted.** -/
def Tag.ofPlain (s : String) : Tag :=
  let cs := s.toList
  if isBool s then bool
  else if isFloat cs then float
  else if isInt cs then int
  else if s = "<<" then merge
  else if isNull s then null
  else if Moment.isPlain cs then timestamp
  else if s = "=" then default
  else str

/-! ## Values -/

/-- **The value of a scalar.** -/
inductive ScalarValue where
  | null
  | boolean (b : Bool)
  | integer (n : Int)
  | decimal (x : Float)
  | text (s : String)
  | binary (bytes : Bytes)
  | moment (m : Moment)

/-! ### Numbers -/

/-- The sign in front of a number, and what is behind it. -/
def signOf : List Char → Bool × List Char
  | '-' :: rest => (true, rest)
  | '+' :: rest => (false, rest)
  | cs => (false, cs)

/-- The letter that marks a base, behind a zero. -/
def baseLetter? : Nat → Option Char
  | 2 => some 'b'
  | 8 => some 'o'
  | 16 => some 'x'
  | _ => none

/-- Digits without the mark of their base, if they have it. -/
def unmarked (base : Nat) : List Char → List Char
  | '0' :: c :: rest => if baseLetter? base = some c.toLower then rest else '0' :: c :: rest
  | cs => cs

/-- A digit below a base. -/
def digitBelow? (base : Nat) (c : Char) : Option Nat :=
  ((Text.digitValue? c).or (Text.hexValue? c)).filter (· < base)

/-- The number that digits of a base stand for; no digit is no number. -/
def magnitude? (base : Nat) (cs : List Char) : Option Nat :=
  match unmarked base cs with
  | [] => none
  | ds => (ds.mapM (digitBelow? base)).map (Integer.ofDigits base)

/-- **A number of a base**, a sign in front of it, a mark of the base and spacing around it
allowed.  Decimal numbers are limited in length. -/
def readNumber (base : Nat) (cs : List Char) : Except LoadFault Int :=
  let (negative, body) := signOf (Text.unspaced cs)
  let count := (body.takeWhile fun c => (Text.digitValue? c).isSome).length
  if base = 10 ∧ Integer.digitLimit < count then .error (.tooLong count)
  else match magnitude? base body with
    | none => .error (.notInteger base (String.ofList cs))
    | some n => .ok (if negative then -n else n)

/-- The value of groups of sixty, the last group being the units. -/
def ofGroups (groups : List Int) : Int := groups.foldl (fun n g => n * 60 + g) 0

/-- A whole number without its sign. -/
def readMagnitude (cs : List Char) : Except LoadFault Int :=
  match cs with
  | [] => .error .emptyNumber
  | ['0'] => .ok 0
  | '0' :: 'b' :: rest => readNumber 2 rest
  | '0' :: 'x' :: rest => readNumber 16 rest
  | '0' :: _ => readNumber 8 cs
  | _ =>
      if cs.contains ':' then ((Text.splitOn ':' cs).mapM (readNumber 10)).map ofGroups
      else readNumber 10 cs

/-- A text without its underscores. -/
def withoutUnderscores (s : String) : List Char := s.toList.filter (· != '_')

/-- **A whole number.** -/
def readInteger (s : String) : Except LoadFault Int :=
  match withoutUnderscores s with
  | [] => .error .emptyNumber
  | cs =>
      let (negative, body) := signOf cs
      (readMagnitude body).map fun n => if negative then -n else n

/-- A number with a fraction, without its sign. -/
def readFraction (cs : List Char) : Except LoadFault Float :=
  let s := String.ofList cs
  match Fraction.read? s with
  | some x => .ok x
  | none => .error (.notNumber s)

/-- The value of groups of sixty, added up from the units on. -/
def ofFractionGroups (groups : List Float) : Float :=
  (groups.reverse.foldl (fun (sum, base) g => (sum + g * base, base * 60)) (0.0, 1.0)).1

/-- **A number with a fraction.** -/
def readDecimal (s : String) : Except LoadFault Float :=
  match (withoutUnderscores s).map Char.toLower with
  | [] => .error .emptyNumber
  | cs =>
      let (negative, body) := signOf cs
      let magnitude :=
        if body = ".inf".toList then .ok Fraction.infinity
        else if body = ".nan".toList then .ok Fraction.notANumber
        else if body.contains ':' then
          ((Text.splitOn ':' body).mapM readFraction).map ofFractionGroups
        else readFraction body
      magnitude.map fun x => if negative then -x else x

/-! ### Bytes -/

/-- The value of a digit of base 64. -/
def digit64? (c : Char) : Option Nat :=
  if 'A' ≤ c && c ≤ 'Z' then some (c.toNat - 65)
  else if 'a' ≤ c && c ≤ 'z' then some (c.toNat - 71)
  else if '0' ≤ c && c ≤ '9' then some (c.toNat + 4)
  else if c == '+' then some 62
  else if c == '/' then some 63
  else none

/-- **Bytes written in base 64.**  `place` counts the digits of the current four, `carry` holds
the bits that are not yet a byte, and `pads` counts the signs of padding since the last digit.
What is neither a digit nor padding is passed over, and enough padding ends the text. -/
def readBytes (place carry pads : Nat) : List Char → Option Bytes
  | [] => if place = 0 then some [] else none
  | c :: rest =>
      if c == '=' then
        if 2 ≤ place ∧ 4 ≤ place + (pads + 1) then some []
        else readBytes place carry (if 2 ≤ place then pads + 1 else pads) rest
      else match digit64? c with
        | none => readBytes place carry pads rest
        | some d =>
            match place with
            | 0 => readBytes 1 d 0 rest
            | 1 => (readBytes 2 (d % 16) 0 rest).map (UInt8.ofNat (carry * 4 + d / 16) :: ·)
            | 2 => (readBytes 3 (d % 4) 0 rest).map (UInt8.ofNat (carry * 16 + d / 4) :: ·)
            | _ => (readBytes 0 0 0 rest).map (UInt8.ofNat (carry * 64 + d) :: ·)

/-! ### Reading -/

/-- A date that is possible. -/
def readMoment (s : String) : Except LoadFault Moment :=
  match Moment.read? s.toList with
  | none => .error .notMoment
  | some m =>
      match m.fault? with
      | some f => .error (.moment f)
      | none => .ok m

/-- A truth value. -/
def readBool (s : String) : Except LoadFault Bool :=
  let word := String.ofList (s.toList.map Char.toLower)
  match word with
  | "yes" => .ok true
  | "true" => .ok true
  | "on" => .ok true
  | "no" => .ok false
  | "false" => .ok false
  | "off" => .ok false
  | _ => .error (.notBoolean word)

/-- **The value of a text under a tag.**  The tags of collections, and those that stand for no
value, give none. -/
def ScalarValue.read (tag : Tag) (s : String) : Except LoadFault ScalarValue :=
  match tag with
  | .null => .ok .null
  | .bool => (readBool s).map .boolean
  | .int => (readInteger s).map .integer
  | .float => (readDecimal s).map .decimal
  | .str => .ok (.text s)
  | .timestamp => (readMoment s).map .moment
  | .binary =>
      if s.toList.all fun c => c.toNat < 0x80 then
        match readBytes 0 0 0 s.toList with
        | some bytes => .ok (.binary bytes)
        | none => .error .malformed
      else .error .malformed
  | _ => .error .malformed

end FunctionChurn.Yaml
