import FunctionChurn.Proofs.Workers
import FunctionChurn.Workers.Batch
import Mathlib.Data.List.Nodup
import Mathlib.Data.List.Perm.Basic

/-!
# A batch under any schedule

Which worker gets to which item when, and how long it takes, is not in the hands of the program.  What the
caller ends with does not depend on it, and neither does what is worked on.

* `Batch.step_cases`: the six things a move can come to.
* `Batch.Sound` is what holds of a batch at all times, `Batch.Sound.step` that a move keeps it.
* `Batch.left` bounds how many moves are left, `Batch.left_step` says that each takes one away.
* `Batch.closed_of_stuck`: a batch to which nothing more can happen is at its end.
* **`Batch.run_outcome`** is what comes of a batch under any schedule.
-/

namespace FunctionChurn.Batch

variable {ι ε α : Type} {slots : Nat} {fn : ι → Except ε α} {items : List ι}
  {b b' : Batch items.length ε α}

/-- **What a move can come to.** -/
theorem step_cases {P : Batch items.length ε α → Prop} {m : Move items.length}
    (h : step slots fn items b m = some b')
    (put : ∀ h : b.handed < items.length, P (b.put ⟨b.handed, h⟩))
    (start : ∀ i ∈ b.waiting, P (b.start i))
    (finish : ∀ i ∈ b.busy, P (b.finish i (fn (items.get i))))
    (see : ∀ (h : b.seen.length < items.length) (a : α),
      b.results ⟨b.seen.length, h⟩ = some (.ok a) → b.outcome = none → P (b.see a))
    (fail : ∀ (h : b.seen.length < items.length) (e : ε),
      b.results ⟨b.seen.length, h⟩ = some (.error e) → b.handed = items.length → b.outcome = none →
        P (b.close (.error e)))
    (succeed : items.length ≤ b.seen.length → b.handed = items.length → b.outcome = none →
      P (b.close (.ok b.seen))) :
    P b' := by
  cases m with
  | hand =>
      obtain ⟨hlt, heq⟩ := Option.dite_none_right_eq_some.mp h
      exact Option.some.inj heq ▸ put hlt
  | start i =>
      obtain ⟨⟨hwaiting, -⟩, heq⟩ := Option.ite_none_right_eq_some.mp h
      exact Option.some.inj heq ▸ start i hwaiting
  | finish i =>
      obtain ⟨hbusy, heq⟩ := Option.ite_none_right_eq_some.mp h
      exact Option.some.inj heq ▸ finish i hbusy
  | ask =>
      obtain ⟨⟨hhanded, hopen⟩, heq⟩ := Option.ite_none_right_eq_some.mp h
      rw [Option.isNone_iff_eq_none] at hopen
      unfold ask at heq
      split at heq
      · next hlt =>
          split at heq
          · next a hresult => exact Option.some.inj heq ▸ see hlt a hresult hopen
          · next e hresult => exact Option.some.inj heq ▸ fail hlt e hresult hhanded hopen
          · contradiction
      · next hge => exact Option.some.inj heq ▸ succeed (Nat.le_of_not_lt hge) hhanded hopen

/-! ## What holds at all times -/

/-- **A batch in order.**

* Every item that was handed over waits or was called with, once.
* There are results for the items that were called with, but for those still worked on.
* The caller has got the results of the first items, all of which succeeded.
* What the caller ends with is the outcome of the batch. -/
structure Sound (fn : ι → Except ε α) (items : List ι) (b : Batch items.length ε α) : Prop where
  handed_le : b.handed ≤ items.length
  once : (b.waiting ++ b.called).Nodup
  mem_iff : ∀ i : Fin items.length, i ∈ b.waiting ++ b.called ↔ i < b.handed
  busy_once : b.busy.Nodup
  busy_called : ∀ i ∈ b.busy, i ∈ b.called
  results_iff : ∀ i result, b.results i = some result
    ↔ (i ∈ b.called ∧ i ∉ b.busy) ∧ fn (items.get i) = result
  seen_eq : (items.map fn).take b.seen.length = b.seen.map .ok
  outcome_eq : ∀ outcome, b.outcome = some outcome →
    b.handed = items.length ∧ outcome = collect (items.map fn)

namespace Sound

lemma init : Sound fn items {} where
  handed_le := Nat.zero_le _
  once := List.nodup_nil
  mem_iff i := by simp
  busy_once := List.nodup_nil
  busy_called i hi := absurd hi List.not_mem_nil
  results_iff i result := by simp
  seen_eq := rfl
  outcome_eq outcome h := by simp at h

variable (h : Sound fn items b)

include h

/-- The next item to be handed over was not seen before. -/
lemma put (hlt : b.handed < items.length) : Sound fn items (b.put ⟨b.handed, hlt⟩) := by
  have hperm : ((b.put ⟨b.handed, hlt⟩).waiting ++ b.called).Perm
      (⟨b.handed, hlt⟩ :: (b.waiting ++ b.called)) := by
    rw [Batch.put, List.append_assoc]
    exact List.perm_middle
  refine { h with handed_le := hlt, once := ?_, mem_iff := fun i => ?_, outcome_eq := ?_ }
  · refine hperm.nodup_iff.mpr (List.nodup_cons.mpr ⟨fun hmem => ?_, h.once⟩)
    exact absurd ((h.mem_iff _).mp hmem) (Nat.lt_irrefl _)
  · have hplace : i = ⟨b.handed, hlt⟩ ↔ (i : Nat) = b.handed := Fin.ext_iff
    refine hperm.mem_iff.trans ?_
    rw [List.mem_cons, h.mem_iff, hplace]
    exact or_comm.trans Nat.lt_succ_iff_lt_or_eq.symm
  · intro outcome houtcome
    have hall := (h.outcome_eq outcome houtcome).1
    omega

/-- An item that is taken moves from those that wait to those that were called with. -/
lemma start {i : Fin items.length} (hi : i ∈ b.waiting) : Sound fn items (b.start i) := by
  have hfresh : i ∉ b.called := List.disjoint_of_nodup_append h.once hi
  have hperm : ((b.start i).waiting ++ (b.start i).called).Perm (b.waiting ++ b.called) := by
    calc b.waiting.erase i ++ (b.called ++ [i])
        _ = b.waiting.erase i ++ b.called ++ [i] := (List.append_assoc _ _ _).symm
        List.Perm _ (i :: (b.waiting.erase i ++ b.called)) := List.perm_append_singleton _ _
        List.Perm _ (b.waiting ++ b.called) := (List.perm_cons_erase hi).symm.append_right _
  refine { h with
    once := hperm.nodup_iff.mpr h.once
    mem_iff := fun j => hperm.mem_iff.trans (h.mem_iff j)
    busy_once := List.nodup_cons.mpr ⟨fun hbusy => hfresh (h.busy_called i hbusy), h.busy_once⟩
    busy_called := ?_
    results_iff := fun j result => (h.results_iff j result).trans (and_congr_left fun _ => ?_) }
  · refine List.forall_mem_cons.mpr ⟨List.mem_append_right _ List.mem_cons_self, fun j hj => ?_⟩
    exact List.mem_append_left _ (h.busy_called j hj)
  · by_cases hij : j = i
    · exact iff_of_false (fun hj => hfresh (hij ▸ hj.1)) fun hj => hj.2 (hij ▸ List.mem_cons_self)
    · simp [Batch.start, hij]

/-- An item that is done with has its result. -/
lemma finish {i : Fin items.length} (hi : i ∈ b.busy) :
    Sound fn items (b.finish i (fn (items.get i))) := by
  refine { h with
    busy_once := h.busy_once.erase i
    busy_called := fun j hj => h.busy_called j (List.mem_of_mem_erase hj)
    results_iff := fun j result => ?_ }
  by_cases hij : j = i
  · subst hij
    have hdone : j ∈ b.called ∧ j ∉ b.busy.erase j :=
      ⟨h.busy_called j hi, h.busy_once.not_mem_erase⟩
    simp [Batch.finish, hdone]
  · simp [Batch.finish, hij, h.results_iff j, List.mem_erase_of_ne hij]

/-- The next result that the caller asks for is the next outcome. -/
lemma take_of_result (hlt : b.seen.length < items.length) {result : Except ε α}
    (hresult : b.results ⟨b.seen.length, hlt⟩ = some result) :
    (items.map fn).take (b.seen.length + 1) = b.seen.map .ok ++ [result] := by
  have hfn : fn (items.get ⟨b.seen.length, hlt⟩) = result := ((h.results_iff _ result).mp hresult).2
  have hnext : (items.map fn)[b.seen.length]? = some result := by
    rw [List.getElem?_map, List.getElem?_eq_getElem hlt, Option.map_some, ← hfn]
    rfl
  rw [List.take_add_one, h.seen_eq, hnext]
  rfl

/-- The caller gets the results of the first items. -/
lemma see (hlt : b.seen.length < items.length) {a : α}
    (ha : b.results ⟨b.seen.length, hlt⟩ = some (.ok a)) (hopen : b.outcome = none) :
    Sound fn items (b.see a) := by
  refine { h with seen_eq := ?_, outcome_eq := fun outcome houtcome => ?_ }
  · rw [Batch.see, List.length_append, List.length_singleton, h.take_of_result hlt ha, List.map_append]
    rfl
  · exact absurd (hopen.symm.trans houtcome) (Option.some_ne_none _).symm

/-- **The first failure the caller is told of** is that of the batch. -/
lemma fail (hlt : b.seen.length < items.length) {e : ε}
    (he : b.results ⟨b.seen.length, hlt⟩ = some (.error e)) (hall : b.handed = items.length) :
    Sound fn items (b.close (.error e)) := by
  have hseen : collect (b.seen.map (.ok : α → Except ε α)) = .ok b.seen :=
    collect_eq_ok_iff.mpr rfl
  have hcollect : collect (items.map fn) = .error e := by
    rw [← List.take_append_drop (b.seen.length + 1) (items.map fn), h.take_of_result hlt he,
      List.append_assoc, collect_append, hseen]
    rfl
  exact { h with outcome_eq := fun outcome houtcome =>
    ⟨hall, (Option.some.inj houtcome).symm.trans hcollect.symm⟩ }

/-- **When the caller has got all results**, they are the outcome of the batch. -/
lemma succeed (hle : items.length ≤ b.seen.length) (hall : b.handed = items.length) :
    Sound fn items (b.close (.ok b.seen)) := by
  have hmap : items.map fn = b.seen.map .ok := by
    rw [← h.seen_eq, List.take_of_length_le (by rwa [List.length_map])]
  exact { h with outcome_eq := fun outcome houtcome =>
    ⟨hall, (Option.some.inj houtcome).symm.trans (collect_eq_ok_iff.mpr hmap).symm⟩ }

/-- **A move keeps a batch in order.** -/
theorem step {m : Move items.length} (hstep : step slots fn items b m = some b') :
    Sound fn items b' :=
  step_cases hstep h.put (fun _ => h.start) (fun _ => h.finish) (fun hlt _ => h.see hlt)
    (fun hlt _ he hall _ => h.fail hlt he hall) (fun hle hall _ => h.succeed hle hall)

end Sound

/-! ## How long it takes -/

/-- **How many moves are left** at most. -/
def left (b : Batch items.length ε α) : Nat :=
  3 * (items.length - b.handed) + 2 * b.waiting.length + b.busy.length
    + match b.outcome with
      | some _ => 0
      | none => items.length - b.seen.length + 1

/-- **Each move is one less to come.** -/
theorem left_step {m : Move items.length} (h : step slots fn items b m = some b') :
    b'.left + 1 ≤ b.left := by
  refine step_cases (P := fun b' => b'.left + 1 ≤ b.left) h (fun hlt => ?_) (fun i hi => ?_)
    (fun i hi => ?_) (fun hlt a _ hopen => ?_) (fun hlt e _ _ hopen => ?_) fun hle _ hopen => ?_
  · simp only [left, put, List.length_append, List.length_singleton]
    omega
  · have hpos := List.length_pos_of_mem hi
    simp only [left, start, List.length_erase_of_mem hi, List.length_cons]
    omega
  · have hpos := List.length_pos_of_mem hi
    simp only [left, finish, List.length_erase_of_mem hi]
    omega
  · simp only [left, see, hopen, List.length_append, List.length_singleton]
    omega
  · simp only [left, close, hopen]
    omega
  · simp only [left, close, hopen]
    omega

/-! ## Schedules -/

/-- What holds of a batch at all times holds behind a schedule, and no schedule is endless. -/
lemma sound_run : ∀ {schedule : List (Move items.length)} {b b' : Batch items.length ε α},
    Sound fn items b → run slots fn items b schedule = some b' →
      Sound fn items b' ∧ b'.left + schedule.length ≤ b.left
  | [], b, b', h, hrun => by
      obtain rfl := Option.some.inj hrun
      exact ⟨h, Nat.le_refl _⟩
  | m :: moves, b, b', h, hrun => by
      rw [run] at hrun
      cases hstep : step slots fn items b m with
      | none => simp [hstep] at hrun
      | some mid =>
          rw [hstep] at hrun
          obtain ⟨hsound, hleft⟩ := sound_run (h.step hstep) hrun
          have hless := left_step hstep
          refine ⟨hsound, ?_⟩
          rw [List.length_cons]
          omega

/-- A caller that asks is told something, if all results are there. -/
lemma ask_ne_none (h : ∀ i, (b.results i).isSome) : b.ask ≠ none := by
  unfold ask
  split
  · next hlt =>
      obtain ⟨a | e, hresult⟩ := Option.isSome_iff_exists.mp (h ⟨b.seen.length, hlt⟩)
      all_goals
        rw [hresult]
        exact Option.some_ne_none _
  · exact Option.some_ne_none _

/-- **A batch to which nothing more can happen** is at its end: nothing is left in the pool, and the
caller has ended. -/
lemma closed_of_stuck (hslots : 0 < slots) (h : Sound fn items b)
    (hstuck : ∀ m, step slots fn items b m = none) : b.Drained ∧ b.outcome.isSome := by
  have hhanded : b.handed = items.length := by
    refine Nat.le_antisymm h.handed_le (Nat.le_of_not_lt fun hlt => ?_)
    have hhand := hstuck .hand
    rw [step, dif_pos hlt] at hhand
    contradiction
  have hbusy : b.busy = [] := List.eq_nil_iff_forall_not_mem.mpr fun i hi => by
    have hfinish := hstuck (.finish i)
    rw [step, if_pos hi] at hfinish
    contradiction
  have hwaiting : b.waiting = [] := List.eq_nil_iff_forall_not_mem.mpr fun i hi => by
    have hstart := hstuck (.start i)
    rw [step, if_pos ⟨hi, by rwa [hbusy]⟩] at hstart
    contradiction
  refine ⟨⟨hhanded, hwaiting, hbusy⟩, Option.isSome_iff_ne_none.mpr fun hopen => ?_⟩
  have hthere : ∀ i, (b.results i).isSome := fun i => by
    have hcalled := (h.mem_iff i).mpr (by rw [hhanded]; exact i.isLt)
    rw [hwaiting, List.nil_append] at hcalled
    have hdone : i ∉ b.busy := by
      rw [hbusy]
      exact List.not_mem_nil
    exact Option.isSome_iff_exists.mpr ⟨_, (h.results_iff i _).mpr ⟨⟨hcalled, hdone⟩, rfl⟩⟩
  have hask := hstuck .ask
  rw [step, if_pos ⟨hhanded, Option.isNone_iff_eq_none.mpr hopen⟩] at hask
  exact ask_ne_none hthere hask

/-- Where nothing is left in the pool, the function was called with every item once. -/
lemma Sound.called_perm (h : Sound fn items b) (hdrained : b.Drained) :
    b.called.Perm (List.finRange items.length) := by
  obtain ⟨hhanded, hwaiting, -⟩ := hdrained
  have honce := h.once
  rw [hwaiting, List.nil_append] at honce
  refine (List.perm_ext_iff_of_nodup honce (List.nodup_finRange _)).mpr fun i => ?_
  have hmem := h.mem_iff i
  rw [hwaiting, List.nil_append, hhanded] at hmem
  exact iff_of_true (hmem.mpr i.isLt) (List.mem_finRange i)

/-- **The outcome of a batch, without a schedule**: all results in the order of the items, or the failure
of the first item that fails. -/
lemma collect_map_iff (fn : ι → Except ε α) (items : List ι) :
    (∀ results, collect (items.map fn) = .ok results ↔ items.map fn = results.map .ok)
    ∧ ∀ e, collect (items.map fn) = .error e
        ↔ ∃ before i after, items = before ++ i :: after ∧ fn i = .error e
            ∧ ∀ j ∈ before, ∃ a, fn j = .ok a := by
  refine ⟨fun results => collect_eq_ok_iff, fun e => ?_⟩
  have hfailure : collect (items.map fn) = .error e ↔ failure? (collect (items.map fn)) = some e := by
    cases collect (items.map fn) <;> simp
  have hfails : ∀ i, failure? (fn i) = some e ↔ fn i = .error e := fun i => by
    cases fn i <;> simp
  rw [hfailure, failure?_collect, List.findSome?_map, List.findSome?_eq_some_iff]
  simp only [Function.comp_apply, hfails, failure?_eq_none_iff]

/-- **A batch under any schedule**: whatever items the workers take and get done with in whatever order,
and wherever that has got to,

1. what the caller ends with is the list of all results in the order of the items, if there is one for
   each of them, and otherwise the failure of the first item in that order that fails;
2. which is what `collect` makes of the outcomes of the items;
3. the function is called with no item twice, and when nothing is left in the pool it was called with each;
4. there are at most four moves for each item and one more, and as long as the caller has not ended or
   something is left in the pool there is a move that can happen. -/
theorem run_outcome (hslots : 0 < slots) {schedule : List (Move items.length)}
    (h : run slots fn items {} schedule = some b) :
    (∀ outcome, b.outcome = some outcome →
      (∀ results, outcome = .ok results ↔ items.map fn = results.map .ok)
      ∧ ∀ e, outcome = .error e
          ↔ ∃ before i after, items = before ++ i :: after ∧ fn i = .error e
              ∧ ∀ j ∈ before, ∃ a, fn j = .ok a)
    ∧ (∀ outcome, b.outcome = some outcome → outcome = collect (items.map fn))
    ∧ (b.called.Nodup ∧ (b.Drained → b.called.Perm (List.finRange items.length)))
    ∧ schedule.length ≤ 4 * items.length + 1
    ∧ ((∀ m, step slots fn items b m = none) → b.Drained ∧ b.outcome.isSome) := by
  obtain ⟨hsound, hleft⟩ := sound_run Sound.init h
  have houtcome : ∀ outcome, b.outcome = some outcome → outcome = collect (items.map fn) :=
    fun outcome hclosed => (hsound.outcome_eq outcome hclosed).2
  refine ⟨fun outcome hclosed => ?_, houtcome, ⟨?_, hsound.called_perm⟩, ?_,
    closed_of_stuck hslots hsound⟩
  · rw [houtcome outcome hclosed]
    exact collect_map_iff fn items
  · exact hsound.once.of_append_right
  · have hstart : ({} : Batch items.length ε α).left = 4 * items.length + 1 := by
      simp only [left, List.length_nil]
      omega
    omega

/-! ## A batch that is overtaken -/

namespace Sample

/-- Every item but zero fails, and tells which it is. -/
def failing (k : Nat) : Except Nat Nat := if k = 0 then .ok k else .error k

/-- Two workers, of whom one gets done with the last item before the other has done anything. -/
def overtaking : List (Move [0, 1, 2].length) :=
  [.hand, .hand, .start 1, .hand, .start 2, .finish 2, .start 0, .finish 0, .ask, .finish 1, .ask]

end Sample

/-- The last item fails first, and the caller is told of the one before it. -/
theorem run_outcome_overtaken :
    ∃ b, run 2 Sample.failing [0, 1, 2] {} Sample.overtaking = some b
      ∧ b.outcome = some (.error 1) ∧ collect ([0, 1, 2].map Sample.failing) = .error 1
      ∧ b.Drained ∧ b.called = [1, 2, 0] ∧ b.called.Perm (List.finRange 3) := by
  obtain ⟨b, hb⟩ := Option.isSome_iff_exists.mp
    (show (run 2 Sample.failing [0, 1, 2] {} Sample.overtaking).isSome from rfl)
  have hview : ∀ {β : Type} (view : Batch 3 Nat Nat → β),
      (run 2 Sample.failing [0, 1, 2] {} Sample.overtaking).map view = some (view b) :=
    fun view => by rw [hb, Option.map_some]
  have hclosed : b.outcome = some (.error 1) := (Option.some.inj (hview Batch.outcome)).symm
  have hdrained : b.Drained :=
    ⟨(Option.some.inj (hview Batch.handed)).symm, (Option.some.inj (hview Batch.waiting)).symm,
      (Option.some.inj (hview Batch.busy)).symm⟩
  obtain ⟨-, hcollect, ⟨-, hperm⟩, -, -⟩ := run_outcome (by decide) hb
  exact ⟨b, hb, hclosed, (hcollect _ hclosed).symm, hdrained,
    (Option.some.inj (hview Batch.called)).symm, hperm hdrained⟩

end FunctionChurn.Batch
