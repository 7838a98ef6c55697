import FunctionChurn.Decimal.Fraction
import FunctionChurn.Yaml.Value

/-!
# Settings

A project may keep its choices in a settings file.  The document in it is a mapping whose keys are
the settings; a value that a setting cannot use is passed over, as if it were not there.

* `Settings` are the choices, and `Overrides` those of the command line.
* `Value.whole?`, `Value.text?` and `Value.texts` say how a value is used as a number, a text, or a
  list of texts.
* `Settings.ofPairs` reads the pairs of a mapping, each setting from the value of its own key.
* `Settings.merge` lays overrides on top: numbers replace, lists are put behind.

Truth values are neither numbers nor texts, but in a list they count by their words.
-/

namespace FunctionChurn

/-! ## Values in use -/

/-- **A whole number is too long to be written.** -/
inductive Unwritable where
  | tooLong
  deriving DecidableEq, Repr

/-- The sentence for a number that is too long. -/
def Unwritable.message : Unwritable → String
  | .tooLong =>
      "Exceeds the limit (" ++ toString Integer.digitLimit
        ++ " digits) for integer string conversion; "
        ++ "use sys.set_int_max_str_digits() to increase the limit"

namespace Yaml.Value

/-- **The whole number that a value is, or spells.** -/
def whole? : Value → Option Int
  | integer n => some n
  | text s => Integer.read? s
  | _ => none

/-- **The text of a value**: of a text, or of a number. -/
def text? : Value → Except Unwritable (Option String)
  | text s => .ok (some s)
  | integer n =>
      match Integer.show? n with
      | some s => .ok (some s)
      | none => .error .tooLong
  | decimal x => .ok (some (Fraction.show x))
  | _ => .ok none

/-- The word for a truth value. -/
def truthWord (b : Bool) : String := if b then "True" else "False"

/-- The text of an item of a list. -/
def itemText? : Value → Except Unwritable (Option String)
  | boolean b => .ok (some (truthWord b))
  | v => v.text?

/-- The texts of the items of a list, those without one passed over. -/
def itemTexts : List Value → Except Unwritable (List String)
  | [] => .ok []
  | v :: rest => do
      let found ← v.itemText?
      let more ← itemTexts rest
      return found.toList ++ more

/-- **The texts of a value**: those of the items of a list; a single text is a list of itself. -/
def texts : Value → Except Unwritable (List String)
  | text s => .ok [s]
  | list items => itemTexts items
  | _ => .ok []

/-- Whether a value is a given text. -/
def isText (s : String) : Value → Bool
  | text t => t == s
  | _ => false

/-- **The value of a key**, the last one if there are several, null if there is none. -/
def atKey (key : String) (pairs : List (Value × Value)) : Value :=
  match pairs.reverse.find? fun p => p.1.isText key with
  | some p => p.2
  | none => null

end Yaml.Value

/-! ## Settings -/

/-- **The choices that a project makes**; `root` is the directory of the file they come from. -/
structure Settings where
  root : String
  total : Int := 50
  skip : Int := 0
  prefixes : List String := []
  invertMatch : List String := []
  excludeFunc : List String := []
  git : String := "git"
  workers : Option Int := none
  deriving DecidableEq, Repr

/-- **The choices of the command line.** -/
structure Overrides where
  total : Option Int := none
  skip : Option Int := none
  prefixes : List String := []
  invertMatch : List String := []
  excludeFunc : List String := []
  deriving DecidableEq, Repr

namespace Settings

/-- A number of rows: not negative, or else the usual one. -/
def rows (usual : Int) (v : Yaml.Value) : Int :=
  match v.whole? with
  | some n => if 0 ≤ n then n else usual
  | none => usual

/-- The program to ask for histories: a text that is not empty, or else the usual one. -/
def program (found : Option String) : String :=
  match found with
  | some s => if s = "" then "git" else s
  | none => "git"

/-- A number of workers: at least one, or none. -/
def crew (v : Yaml.Value) : Option Int := v.whole?.filter fun n => 0 < n

/-- **The settings in the pairs of a mapping.** -/
def ofPairs (root : String) (pairs : List (Yaml.Value × Yaml.Value)) :
    Except Unwritable Settings := do
  let prefixes ← (Yaml.Value.atKey "prefixes" pairs).texts
  let invertMatch ← (Yaml.Value.atKey "invert_match" pairs).texts
  let excludeFunc ← (Yaml.Value.atKey "exclude_func" pairs).texts
  let git ← (Yaml.Value.atKey "git" pairs).text?
  return {
    root
    total := rows 50 (.atKey "total" pairs)
    skip := rows 0 (.atKey "skip" pairs)
    prefixes
    invertMatch
    excludeFunc
    git := program git
    workers := crew (.atKey "workers" pairs) }

/-- **Overrides laid on top of settings.** -/
def merge (s : Settings) (o : Overrides) : Settings :=
  { s with
    total := o.total.getD s.total
    skip := o.skip.getD s.skip
    prefixes := s.prefixes ++ o.prefixes
    invertMatch := s.invertMatch ++ o.invertMatch
    excludeFunc := s.excludeFunc ++ o.excludeFunc }

end Settings

end FunctionChurn
