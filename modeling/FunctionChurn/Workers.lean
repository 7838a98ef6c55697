/-!
# The worker pool

Listing directories and asking for histories is done in batches by a pool of workers that the
whole process shares.  There is one pool at a time: it is made when it is first needed, and
dropped when the size is configured anew or when the work is over.

* `Workers` is the state: the configured size, the pool that is held if there is one, and what became
  of the pools before it.
* `Workers.configure`, `Workers.acquire` and `Workers.shutdown` are the transitions, and
  `Workers.work` is what batches one after the other lead to.
* `collect` turns the outcomes of a batch into the outcome of the whole: all results in the order of
  the items, or the first failure in that order.  `Batch` is how a pool gets there.

Pools are told apart by a number that is never used twice, so that "the same pool" is a statement
about the state.
-/

namespace FunctionChurn

/-- **A pool**: its number, and its size; without a size the pool chooses its own. -/
structure Pool where
  number : Nat
  size : Option Int
  deriving DecidableEq, Repr

/-- Why no pool can be had. -/
inductive PoolError where
  /-- The configured size is below one. -/
  | noWorkers
  deriving DecidableEq, Repr

/-- The sentence for a pool error. -/
def PoolError.message : PoolError → String
  | .noWorkers => "max_workers must be greater than 0"

/-- **The state of the shared pool.** -/
structure Workers where
  configured : Option Int := none
  /-- The pool that is held, for whoever asks for one. -/
  running : Option Pool := none
  /-- The pools made so far, in the order of their numbers. -/
  made : List Pool := []
  /-- The pools that were shut down. -/
  stopped : List Pool := []
  deriving DecidableEq, Repr

namespace Workers

/-- **The pool that is held is shut down**, and held no longer. -/
def shutdown (w : Workers) : Workers :=
  { w with running := none, stopped := w.stopped ++ w.running.toList }

/-- **A size is configured**, and a pool that is held is shut down. -/
def configure (w : Workers) (size : Option Int) : Workers :=
  { w with configured := size }.shutdown

/-- Whether a pool of a size can be made. -/
def isSize : Option Int → Bool
  | some n => 1 ≤ n
  | none => true

/-- The pool that is made next. -/
def next (w : Workers) : Pool := ⟨w.made.length, w.configured⟩

/-- The state in which it is made. -/
def grow (w : Workers) : Workers := { w with running := some w.next, made := w.made ++ [w.next] }

/-- **The pool**, made now if there is none. -/
def acquire (w : Workers) : Except PoolError (Pool × Workers) :=
  match w.running with
  | some pool => .ok (pool, w)
  | none => if isSize w.configured then .ok (w.next, w.grow) else .error .noWorkers

/-- The state in which a batch of so many items is worked on: an empty batch needs no pool. -/
def acquireFor (w : Workers) (items : Nat) : Except PoolError Workers :=
  if items = 0 then .ok w else w.acquire.map (·.2)

/-- **The state after batches of such sizes**, one after the other. -/
def work (w : Workers) : List Nat → Except PoolError Workers
  | [] => .ok w
  | items :: rest =>
      match w.acquireFor items with
      | .ok w' => w'.work rest
      | .error e => .error e

end Workers

/-- **The outcome of a batch**: the results in the order of the items, or the failure of the first
item that has one. -/
def collect {ε α : Type} : List (Except ε α) → Except ε (List α)
  | [] => .ok []
  | .error e :: _ => .error e
  | .ok a :: rest => (collect rest).map (a :: ·)

end FunctionChurn
