import FunctionChurn.Decimal.Integer
import FunctionChurn.Yaml.Tag

/-!
# Dates and times

A date in a YAML text can have a time behind it, and that a distance from universal time.  No
setting takes a date, but an impossible one is an error that has to be reported.

* `Moment` is a date or a time as it is written, `Moment.read?` reads one.
* `Moment.fault?` is the first thing that is impossible about it.
-/

namespace FunctionChurn.Yaml

/-- The time of a day, with the distance from universal time in minutes if one was written. -/
structure ClockTime where
  hour : Nat
  minute : Nat
  second : Nat
  offset : Option Int
  deriving DecidableEq, Repr

/-- **A date, maybe with a time.** -/
structure Moment where
  year : Nat
  month : Nat
  day : Nat
  time : Option ClockTime
  deriving DecidableEq, Repr

/-- **What is impossible about a date or a time.** -/
inductive MomentFault where
  | year (n : Nat)
  | month
  | day
  | hour
  | minute
  | second
  /-- The distance from universal time, in minutes. -/
  | offset (minutes : Int)
  deriving DecidableEq, Repr

/-- A span of time as messages write it: whole days, and the seconds that are left. -/
def spanText (minutes : Int) : String :=
  let seconds := minutes * 60
  let days := Int.fdiv seconds 86400
  let rest := Int.fmod seconds 86400
  let parts := (if days = 0 then [] else ["days=" ++ toString days])
    ++ (if rest = 0 then [] else ["seconds=" ++ toString rest])
  "datetime.timedelta(" ++ (if parts = [] then "0" else ", ".intercalate parts) ++ ")"

/-- The sentence for what is impossible. -/
def MomentFault.message : MomentFault → String
  | .year n => "year " ++ toString n ++ " is out of range"
  | .month => "month must be in 1..12"
  | .day => "day is out of range for month"
  | .hour => "hour must be in 0..23"
  | .minute => "minute must be in 0..59"
  | .second => "second must be in 0..59"
  | .offset minutes =>
      "offset must be a timedelta strictly between -timedelta(hours=24) and "
        ++ "timedelta(hours=24), not " ++ spanText minutes ++ "."

namespace Moment

/-! ## Reading -/

/-- Digits as a number. -/
def number (ds : List Char) : Nat := Integer.ofDigits 10 (ds.map fun d => d.toNat - 48)

/-- A blank between a time and what is behind it. -/
def isGap (c : Char) : Bool := c == ' ' || c == '\t'

/-- The minutes of a distance, behind its hours. -/
def offsetMinutes? : List Char → Option Nat
  | [] => some 0
  | ':' :: rest => match Tag.exactly? 2 rest with
      | some (ds, []) => some (number ds)
      | _ => none
  | _ => none

/-- **A distance from universal time**, in minutes. -/
def offset? (cs : List Char) : Option (Option Int) :=
  match cs.dropWhile isGap with
  | [] => if cs.isEmpty then some none else none
  | ['Z'] => some (some 0)
  | sign :: rest =>
      if sign = '+' ∨ sign = '-' then do
        let (ds, rest) ← Tag.oneOrTwo? rest
        let minutes ← offsetMinutes? rest
        let span : Int := number ds * 60 + minutes
        return some (if sign = '-' then -span else span)
      else none

/-- The digits behind the point of the seconds, left out. -/
def behindFraction : List Char → List Char
  | '.' :: rest => rest.dropWhile Char.isDigit
  | cs => cs

/-- The time of a day. -/
def time? (cs : List Char) : Option ClockTime := do
  let (hour, rest) ← Tag.oneOrTwo? cs
  let (minute, rest) ← Tag.exactly? 2 (← Tag.behind? ':' rest)
  let (second, rest) ← Tag.exactly? 2 (← Tag.behind? ':' rest)
  let offset ← offset? (behindFraction rest)
  return ⟨number hour, number minute, number second, offset⟩

/-- What stands between a date and a time: the letter, or blanks. -/
def behindDate? : List Char → Option (List Char)
  | 'T' :: rest => some rest
  | 't' :: rest => some rest
  | c :: rest => if isGap c then some (rest.dropWhile isGap) else none
  | [] => none

/-- **A date with what is behind it**, `day?` telling how many digits a month and a day may have. -/
def date? (part? : List Char → Option (List Char × List Char)) (cs : List Char) :
    Option (Nat × Nat × Nat × List Char) := do
  let (year, rest) ← Tag.exactly? 4 cs
  let (month, rest) ← part? (← Tag.behind? '-' rest)
  let (day, rest) ← part? (← Tag.behind? '-' rest)
  return (number year, number month, number day, rest)

/-- A date, maybe with a time. -/
def read? (cs : List Char) : Option Moment := do
  let (year, month, day, rest) ← date? Tag.oneOrTwo? cs
  if rest.isEmpty then return ⟨year, month, day, none⟩
  else return ⟨year, month, day, some (← time? (← behindDate? rest))⟩

/-- **Whether a plain scalar is a date**: with two digits for the month and the day, unless there
is a time behind them. -/
def isPlain (cs : List Char) : Bool :=
  match read? cs with
  | some ⟨_, _, _, none⟩ => cs.length == 10
  | some _ => true
  | none => false

/-! ## Faults -/

/-- Whether a year has a day more. -/
def isLeap (year : Nat) : Bool := year % 4 == 0 && (year % 100 != 0 || year % 400 == 0)

/-- How many days a month has. -/
def daysIn (year month : Nat) : Nat :=
  if month = 2 then if isLeap year then 29 else 28
  else if [4, 6, 9, 11].contains month then 30 else 31

/-- What is impossible about a date. -/
def dateFault? (m : Moment) : Option MomentFault :=
  if m.year = 0 then some (.year m.year)
  else if m.month = 0 ∨ 12 < m.month then some .month
  else if m.day = 0 ∨ daysIn m.year m.month < m.day then some .day
  else none

/-- What is impossible about the time of a day. -/
def clockFault? (t : ClockTime) : Option MomentFault :=
  if 23 < t.hour then some .hour
  else if 59 < t.minute then some .minute
  else if 59 < t.second then some .second
  else none

/-- What is impossible about a distance: it must be less than a day. -/
def offsetFault? (t : ClockTime) : Option MomentFault :=
  match t.offset with
  | some n => if 24 * 60 ≤ n.natAbs then some (.offset n) else none
  | none => none

/-- **The first thing that is impossible** about a date or a time. -/
def fault? (m : Moment) : Option MomentFault :=
  match m.time with
  | none => dateFault? m
  | some t => ((offsetFault? t).or (dateFault? m)).or (clockFault? t)

end Moment

end FunctionChurn.Yaml
