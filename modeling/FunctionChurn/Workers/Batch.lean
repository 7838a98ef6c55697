/-!
# A batch in the pool

The caller hands the items of a batch to the pool, one after the other, and then asks for their results in
the order of the items.  Meanwhile the workers take items that wait and get done with them, in an order
that nobody has a hand in.

* `Batch` is a batch on its way: what waits, what is worked on, what there are results for, and what the
  caller has got.
* `Move` is what can happen next, and `Batch.step` what comes of it, if it can happen at all.
* `Batch.run` follows a schedule, which is a list of moves.
* `Batch.Drained` is a batch of which nothing is left in the pool.

The caller asks for a result only when all items are handed over, and waits for one that is not there yet.
It gives up at the first failure it is told of, which leaves the other items to the workers.
-/

namespace FunctionChurn

/-- **A batch of so many items on its way.**  Items go by their place in the batch. -/
structure Batch (n : Nat) (ε α : Type) where
  /-- How many items the caller has handed to the pool. -/
  handed : Nat := 0
  waiting : List (Fin n) := []
  busy : List (Fin n) := []
  /-- The items that the function was called with, in the order of time. -/
  called : List (Fin n) := []
  results : Fin n → Option (Except ε α) := fun _ => none
  /-- The results that the caller has got. -/
  seen : List α := []
  /-- What the caller ends with. -/
  outcome : Option (Except ε (List α)) := none

/-- **What can happen next** to a batch. -/
inductive Move (n : Nat) where
  /-- The caller hands over the next item. -/
  | hand
  /-- A worker calls the function with an item. -/
  | start (i : Fin n)
  /-- A worker is done with an item. -/
  | finish (i : Fin n)
  /-- The caller is told the next result, or that there are no more. -/
  | ask
  deriving DecidableEq, Repr

namespace Batch

section

variable {n : Nat} {ε α : Type}

/-- An item waits. -/
def put (b : Batch n ε α) (i : Fin n) : Batch n ε α :=
  { b with handed := b.handed + 1, waiting := b.waiting ++ [i] }

/-- An item is worked on. -/
def start (b : Batch n ε α) (i : Fin n) : Batch n ε α :=
  { b with waiting := b.waiting.erase i, busy := i :: b.busy, called := b.called ++ [i] }

/-- There is a result for an item. -/
def finish (b : Batch n ε α) (i : Fin n) (result : Except ε α) : Batch n ε α :=
  { b with
    busy := b.busy.erase i
    results := fun j => if j = i then some result else b.results j }

/-- The caller gets one more result. -/
def see (b : Batch n ε α) (a : α) : Batch n ε α := { b with seen := b.seen ++ [a] }

/-- The caller ends. -/
def close (b : Batch n ε α) (outcome : Except ε (List α)) : Batch n ε α :=
  { b with outcome := some outcome }

/-- **The caller asks for the next result**, and is told if it is there. -/
def ask (b : Batch n ε α) : Option (Batch n ε α) :=
  if h : b.seen.length < n then
    match b.results ⟨b.seen.length, h⟩ with
    | some (.ok a) => some (b.see a)
    | some (.error e) => some (b.close (.error e))
    | none => none
  else some (b.close (.ok b.seen))

/-- **Nothing is left in the pool.** -/
def Drained (b : Batch n ε α) : Prop := b.handed = n ∧ b.waiting = [] ∧ b.busy = []

end

variable {ι ε α : Type} (slots : Nat) (fn : ι → Except ε α) (items : List ι)

/-- **A move**, in a pool with so many workers.  The items that wait may be taken in any order. -/
def step (b : Batch items.length ε α) : Move items.length → Option (Batch items.length ε α)
  | .hand => if h : b.handed < items.length then some (b.put ⟨b.handed, h⟩) else none
  | .start i => if i ∈ b.waiting ∧ b.busy.length < slots then some (b.start i) else none
  | .finish i => if i ∈ b.busy then some (b.finish i (fn (items.get i))) else none
  | .ask => if b.handed = items.length ∧ b.outcome.isNone then b.ask else none

/-- **A schedule followed**, if each of its moves can happen in its turn. -/
def run (b : Batch items.length ε α) : List (Move items.length) → Option (Batch items.length ε α)
  | [] => some b
  | m :: moves =>
      match step slots fn items b m with
      | some b' => run b' moves
      | none => none

end Batch

end FunctionChurn
