import FunctionChurn.Text.Search

/-!
# Functions that were found, and their receivers

Searching a file gives *elements*: names with the line they stand on.  A method of Go is found as
two elements, its receiver list and its name; `Receiver.join` folds the first into the second, so
that a reader of the report can tell the methods of different types apart.

* `Element` is one found name.
* `Receiver.token` picks the type out of a receiver list such as `(r *T)`.
* `Receiver.join` gives the elements that are left, and how many receivers were folded away.
-/

namespace FunctionChurn

/-- **A name found in a file.**  `group` tells which part of a declaration it is. -/
structure Element where
  name : String
  file : String
  line : Int
  group : Int
  deriving DecidableEq, Repr

namespace Receiver

/-- The group of the elements that are receiver lists. -/
def group : Int := 0

/-- Whether an element is a receiver list. -/
def isReceiver (e : Element) : Bool := e.group == group

/-- **The receiver as it is shown**, its closing parenthesis included.  With a space in the list
it is what stands behind the first space and before the next; without one the list is shown less
its opening parenthesis. -/
def token (receiver : String) : String :=
  match Text.splitOn ' ' receiver.toList with
  | _ :: second :: _ => String.ofList second
  | _ => String.ofList (receiver.toList.drop 1)

/-- A name with its receiver in front. -/
def qualify (receiver name : String) : String := "(" ++ token receiver ++ " " ++ name

/-- An element under the receiver list that is waiting for it, if there is one. -/
def attach (waiting : Option String) (e : Element) : Element :=
  match waiting with
  | some receiver => { e with name := qualify receiver e.name }
  | none => e

/-- The elements that are left, given the receiver list that waits for the next one. -/
def joinWaiting : Option String → List Element → List Element
  | _, [] => []
  | waiting, e :: rest =>
      if isReceiver e then joinWaiting (some e.name) rest
      else attach waiting e :: joinWaiting none rest

/-- **Receivers folded into the names behind them.**  Of several receivers in a row the last one
counts, and one with nothing behind it is dropped. -/
def join (es : List Element) : List Element := joinWaiting none es

/-- How many elements are receivers, and so not left after joining. -/
def redacted (es : List Element) : Nat := es.countP isReceiver

/-- Joining removes the receivers and nothing else. -/
theorem length_joinWaiting :
    ∀ (w : Option String) (es : List Element),
      (joinWaiting w es).length + redacted es = es.length
  | _, [] => rfl
  | w, e :: rest => by
      rw [joinWaiting]
      by_cases h : isReceiver e
      · have ih := length_joinWaiting (some e.name) rest
        simp only [h, if_true, redacted, List.countP_cons, List.length_cons] at ih ⊢
        omega
      · have ih := length_joinWaiting none rest
        simp only [h, redacted, List.countP_cons, List.length_cons] at ih ⊢
        simp only [Bool.false_eq_true, if_false, List.length_cons]
        omega

end Receiver

end FunctionChurn
