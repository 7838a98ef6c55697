import FunctionChurn.History
import FunctionChurn.Journal
import FunctionChurn.Progress

/-!
# What a run leaves behind besides its answer

While a report is made, programs are called, records are written to the log, progress messages are
sent, and work is given to the pool in batches.  Each step of the run gives its own `Trace`, and the
trace of the whole is made of theirs in order.
-/

namespace FunctionChurn

/-- **The calls, records and progress messages of a step, and the sizes of its batches**, each kind
in order. -/
structure Trace where
  calls : List Call := []
  records : List Record := []
  updates : List Progress.Update := []
  batches : List Nat := []
  deriving DecidableEq, Repr

namespace Trace

/-- One trace and then another. -/
def append (t u : Trace) : Trace :=
  ⟨t.calls ++ u.calls, t.records ++ u.records, t.updates ++ u.updates, t.batches ++ u.batches⟩

instance : Append Trace := ⟨append⟩

/-- The traces of several steps in order. -/
def join : List Trace → Trace
  | [] => {}
  | t :: ts => t ++ join ts

/-- The trace of one record. -/
def record (level : Level) (source message : String) : Trace :=
  { records := [⟨level, source, message⟩] }

@[simp] theorem calls_append (t u : Trace) : (t ++ u).calls = t.calls ++ u.calls := rfl

@[simp] theorem records_append (t u : Trace) : (t ++ u).records = t.records ++ u.records := rfl

@[simp] theorem updates_append (t u : Trace) : (t ++ u).updates = t.updates ++ u.updates := rfl

@[simp] theorem batches_append (t u : Trace) : (t ++ u).batches = t.batches ++ u.batches := rfl

end Trace

end FunctionChurn
