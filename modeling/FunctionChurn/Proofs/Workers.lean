import FunctionChurn.Workers
import Mathlib.Data.List.Basic
import Mathlib.Tactic.Common

/-!
# The outcome of a batch

A batch succeeds when all of its items do, and then its results are theirs in order
(`collect_eq_ok_iff`).  Two batches one after the other are one batch (`collect_append`), since the
second is not looked at when the first fails.

The failure of a batch is the first failure of its items (`failure?_collect`).

When the batches of a run come one after the other, those behind the first that fails are not begun:
`tried` are the items that were worked on.  The pool that works on them can always be had if its size is
possible (`Workers.exists_work`).
-/

namespace FunctionChurn

variable {ε α : Type}

/-- **A batch succeeds with the results of its items**, all of which must have one. -/
theorem collect_eq_ok_iff : ∀ {outcomes : List (Except ε α)} {results : List α},
    collect outcomes = .ok results ↔ outcomes = results.map .ok
  | [], results => by cases results <;> simp [collect]
  | .error e :: rest, results => by cases results <;> simp [collect]
  | .ok a :: rest, results => by
      rw [collect]
      cases h : collect rest with
      | error e =>
          refine ⟨fun h' => by simp [Except.map] at h', fun h' => ?_⟩
          cases results with
          | nil => simp at h'
          | cons b results =>
              have hrest := (List.cons.inj h').2
              rw [collect_eq_ok_iff.mpr hrest] at h
              simp at h
      | ok results' =>
          rw [collect_eq_ok_iff.mp h]
          cases results with
          | nil => simp [Except.map]
          | cons b results =>
              have hinj : Function.Injective (Except.ok : α → Except ε α) :=
                fun _ _ h => Except.ok.inj h
              simp [Except.map, hinj.list_map.eq_iff]

/-- **Two batches are one.** -/
theorem collect_append : ∀ outcomes more : List (Except ε α),
    collect (outcomes ++ more)
      = match collect outcomes with
        | .ok results => (collect more).map (results ++ ·)
        | .error e => .error e
  | [], more => by cases h : collect more <;> simp [collect, h, Except.map]
  | .error e :: rest, more => by simp [collect]
  | .ok a :: rest, more => by
      rw [List.cons_append, collect, collect_append rest more, collect]
      cases collect rest with
      | error e => rfl
      | ok results => cases collect more <;> rfl

/-- The failure of an outcome, if it has one. -/
def failure? : Except ε α → Option ε
  | .error e => some e
  | .ok _ => none

@[simp] lemma failure?_error (e : ε) : failure? (.error e : Except ε α) = some e := rfl

@[simp] lemma failure?_ok (a : α) : failure? (.ok a : Except ε α) = none := rfl

@[simp] lemma failure?_map {β : Type} (f : α → β) (outcome : Except ε α) :
    failure? (outcome.map f) = failure? outcome := by
  cases outcome <;> rfl

@[simp] lemma failure?_mapError {δ : Type} (f : ε → δ) (outcome : Except ε α) :
    failure? (outcome.mapError f) = (failure? outcome).map f := by
  cases outcome <;> rfl

lemma failure?_eq_none_iff {outcome : Except ε α} :
    failure? outcome = none ↔ ∃ a, outcome = .ok a := by
  cases outcome <;> simp

/-- **A batch fails with the first failure of its items.** -/
theorem failure?_collect : ∀ outcomes : List (Except ε α),
    failure? (collect outcomes) = outcomes.findSome? failure?
  | [] => rfl
  | .error e :: rest => rfl
  | .ok a :: rest => by
      rw [collect, failure?_map, failure?_collect rest]
      rfl

/-! ## Batches that stop -/

section Tried

variable {ι κ γ : Type}

/-- **The items that are worked on** when batches come one after the other: those of all batches up to
the first that fails, and of that one as well. -/
def tried (outcome : ι → Except ε α) : List (List ι) → List ι
  | [] => []
  | batch :: rest =>
      match collect (batch.map outcome) with
      | .ok _ => batch ++ tried outcome rest
      | .error _ => batch

end Tried

/-! ## The pool -/

namespace Workers

/-- A batch finds a pool, if one of the configured size can be made. -/
lemma exists_acquireFor {w : Workers} (h : isSize w.configured = true) (items : Nat) :
    ∃ w', w.acquireFor items = .ok w' ∧ isSize w'.configured = true := by
  unfold acquireFor
  split
  · exact ⟨w, rfl, h⟩
  · unfold acquire
    split
    · exact ⟨w, rfl, h⟩
    · rw [if_pos h]
      exact ⟨_, rfl, h⟩

/-- **All batches of a run find a pool**, if one of the configured size can be made. -/
theorem exists_work : ∀ (sizes : List Nat) {w : Workers}, isSize w.configured = true →
    ∃ w', w.work sizes = .ok w'
  | [], w, _ => ⟨w, rfl⟩
  | items :: rest, w, h => by
      obtain ⟨w', hw', hsize⟩ := exists_acquireFor h items
      rw [work, hw']
      exact exists_work rest hsize

end Workers

end FunctionChurn
