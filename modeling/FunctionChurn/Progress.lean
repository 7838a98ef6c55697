/-!
# Progress counters

While a report is made, work is found and work is done, and two counters say how much.  Whoever
watches decides how to show them; here they are only counted.

* `Progress` holds the two counters.
* `Progress.Update` is one message to them, `Progress.apply` what it does.

The total never falls below zero: an update that would take it there leaves zero.
-/

namespace FunctionChurn

/-- **How much work was found, and how much of it is done.** -/
structure Progress where
  total : Int := 0
  done : Int := 0
  deriving DecidableEq, Repr

namespace Progress

/-- **A message to the counters.** -/
inductive Update where
  /-- So much more work was found, or less. -/
  | total (n : Int)
  /-- So much more was done. -/
  | done (n : Int)
  /-- There will be no more messages. -/
  | close
  deriving DecidableEq, Repr

/-- The counters after a message. -/
def apply (p : Progress) : Update → Progress
  | .total n => { p with total := max 0 (p.total + n) }
  | .done n => { p with done := p.done + n }
  | .close => p

/-- The counters after several messages. -/
def applyAll (p : Progress) (us : List Update) : Progress := us.foldl apply p

/-- The counters after each of several messages. -/
def states (p : Progress) : List Update → List Progress
  | [] => []
  | u :: us => p.apply u :: (p.apply u).states us

/-- Messages one after the other are one list of messages. -/
theorem applyAll_append (p : Progress) (us vs : List Update) :
    p.applyAll (us ++ vs) = (p.applyAll us).applyAll vs := List.foldl_append

end Progress

end FunctionChurn
