import FunctionChurn.Proofs.Workers

/-!
# The pools of a process

Pools are made when they are needed, shared by whoever asks for one, and shut down when another size is
configured or the work is over.  Calls may come in any order, and some of them fail.

* `PoolCall` is a call, `Workers.perform` what comes of it, and `Workers.after` what calls one after the
  other lead to.
* `Workers.alive` are the pools that were made and not shut down.
* `Workers.InOrder` holds of the state at all times; `Workers.InOrder.perform` is that a call keeps it.
* `Workers.eq_iff_not_dropsIn`: what is between two calls that give the same pool.
* **`Workers.pool_lifetime`** is what holds after any calls.
-/

namespace FunctionChurn

/-! ## Calls -/

/-- **A call.**  A batch comes with the outcomes of its items. -/
inductive PoolCall (ε α : Type) where
  | configure (size : Option Int)
  | acquire
  | batch (outcomes : List (Except ε α))
  | shutdown

/-- What a call gives. -/
inductive PoolAnswer (ε α : Type) where
  | done
  | pool (p : Pool)
  | batch (outcome : Except ε (List α))
  | refused (e : PoolError)

namespace PoolCall

variable {ε α : Type}

/-- The size that a call configures. -/
def size? : PoolCall ε α → Option (Option Int)
  | configure size => some size
  | _ => none

/-- Whether a call shuts down the pool that is held. -/
def Drops : PoolCall ε α → Prop
  | configure _ => True
  | shutdown => True
  | _ => False

/-- Whether a call cannot do without a pool. -/
def NeedsPool : PoolCall ε α → Prop
  | acquire => True
  | batch outcomes => outcomes ≠ []
  | _ => False

end PoolCall

namespace Workers

variable {ε α : Type} {w w' : Workers} {p q : Pool}

/-- **A call**: what it gives, and the state it leaves. -/
def perform (w : Workers) : PoolCall ε α → PoolAnswer ε α × Workers
  | .configure size => (.done, w.configure size)
  | .acquire =>
      match w.acquire with
      | .ok (p, w') => (.pool p, w')
      | .error e => (.refused e, w)
  | .batch outcomes =>
      match w.acquireFor outcomes.length with
      | .ok w' => (.batch (collect outcomes), w')
      | .error e => (.refused e, w)
  | .shutdown => (.done, w.shutdown)

/-- **The state after some calls.** -/
def after (w : Workers) (calls : List (PoolCall ε α)) : Workers :=
  calls.foldl (fun w c => (w.perform c).2) w

@[simp] lemma after_nil : w.after ([] : List (PoolCall ε α)) = w := rfl

@[simp] lemma after_cons (c : PoolCall ε α) (calls : List (PoolCall ε α)) :
    w.after (c :: calls) = (w.perform c).2.after calls := rfl

/-- **The pools that are running**: those that were made and not shut down. -/
def alive (w : Workers) : List Pool := w.made.filter (· ∉ w.stopped)

/-- **Whether the pool that is held is shut down** in the course of some calls. -/
def DropsIn (w : Workers) (calls : List (PoolCall ε α)) : Prop :=
  ∃ before c behind, calls = before ++ c :: behind ∧ c.Drops ∧ (w.after before).running.isSome

/-! ## What a call comes to -/

/-- **What asking for a pool can come to**: the one that is held, a new one, or none. -/
lemma acquire_cases (w : Workers) :
    (∃ p, w.running = some p ∧ w.acquire = .ok (p, w))
    ∨ (w.running = none ∧ isSize w.configured = true ∧ w.acquire = .ok (w.next, w.grow))
    ∨ (w.running = none ∧ isSize w.configured = false ∧ w.acquire = .error .noWorkers) := by
  rw [acquire]
  cases w.running with
  | some p => exact .inl ⟨p, rfl, rfl⟩
  | none =>
      cases isSize w.configured with
      | true => exact .inr (.inl ⟨rfl, rfl, rfl⟩)
      | false => exact .inr (.inr ⟨rfl, rfl, rfl⟩)

/-- A pool is handed out if one is held, or if one can be made. -/
lemma acquire_eq_ok (h : w.acquire = .ok (p, w')) :
    (w.running = some p ∧ w' = w)
    ∨ (w.running = none ∧ isSize w.configured = true ∧ p = w.next ∧ w' = w.grow) := by
  rcases w.acquire_cases with ⟨q, hrunning, heq⟩ | ⟨hrunning, hsize, heq⟩ | ⟨-, -, heq⟩
  · obtain ⟨rfl, rfl⟩ := Prod.mk.inj (Except.ok.inj (heq.symm.trans h))
    exact .inl ⟨hrunning, rfl⟩
  · obtain ⟨rfl, rfl⟩ := Prod.mk.inj (Except.ok.inj (heq.symm.trans h))
    exact .inr ⟨hrunning, hsize, rfl, rfl⟩
  · rw [heq] at h
    contradiction

/-- A pool that is handed out is held. -/
lemma running_of_acquire (h : w.acquire = .ok (p, w')) : w'.running = some p := by
  rcases acquire_eq_ok h with ⟨hrunning, rfl⟩ | ⟨-, -, rfl, rfl⟩
  · exact hrunning
  · rfl

/-- **What a call can come to**: the state stays, a pool is made, or the pool that is held is shut down,
perhaps for another size. -/
lemma perform_cases (w : Workers) (c : PoolCall ε α) :
    (¬ c.Drops ∧ c.size? = none
      ∧ ((w.perform c).2 = w
        ∨ w.running = none ∧ isSize w.configured = true ∧ (w.perform c).2 = w.grow))
    ∨ (c.Drops ∧ (w.perform c).2 = w.configure (c.size?.getD w.configured)) := by
  cases c with
  | configure size => exact .inr ⟨trivial, rfl⟩
  | shutdown => exact .inr ⟨trivial, rfl⟩
  | acquire =>
      refine .inl ⟨id, rfl, ?_⟩
      rw [perform]
      rcases w.acquire_cases with ⟨p, -, heq⟩ | ⟨hrunning, hsize, heq⟩ | ⟨-, -, heq⟩ <;> rw [heq]
      · exact .inl rfl
      · exact .inr ⟨hrunning, hsize, rfl⟩
      · exact .inl rfl
  | batch outcomes =>
      refine .inl ⟨id, rfl, ?_⟩
      rw [perform, acquireFor]
      by_cases hlength : outcomes.length = 0
      · rw [if_pos hlength]
        exact .inl rfl
      · rw [if_neg hlength]
        rcases w.acquire_cases with ⟨p, -, heq⟩ | ⟨hrunning, hsize, heq⟩ | ⟨-, -, heq⟩ <;> rw [heq]
        · exact .inl rfl
        · exact .inr ⟨hrunning, hsize, rfl⟩
        · exact .inl rfl

/-! ## What holds at all times -/

/-- **A state in order.**  The pool that is held is the only one that is running, and it has the configured
size, which is one that a pool can have.  Pools are numbered in the order in which they are made. -/
structure InOrder (w : Workers) : Prop where
  alive_eq : w.alive = w.running.toList
  size_eq : ∀ p, w.running = some p → p.size = w.configured ∧ isSize w.configured
  number_lt : ∀ p ∈ w.made, p.number < w.made.length
  stopped_made : ∀ p ∈ w.stopped, p ∈ w.made

namespace InOrder

lemma init : InOrder {} where
  alive_eq := rfl
  size_eq _ h := by contradiction
  number_lt _ h := absurd h List.not_mem_nil
  stopped_made _ h := absurd h List.not_mem_nil

/-- The pool that is held is running. -/
lemma mem_alive_iff (h : w.InOrder) : p ∈ w.alive ↔ w.running = some p := by
  rw [h.alive_eq, Option.mem_toList]

/-- Every pool is held or was shut down. -/
lemma held_or_stopped (h : w.InOrder) (hp : p ∈ w.made) : w.running = some p ∨ p ∈ w.stopped := by
  by_cases hstopped : p ∈ w.stopped
  · exact .inr hstopped
  · exact .inl (h.mem_alive_iff.mp (List.mem_filter.mpr ⟨hp, decide_eq_true hstopped⟩))

lemma notMem_stopped (h : w.InOrder) (hp : w.running = some p) : p ∉ w.stopped :=
  of_decide_eq_true (List.mem_filter.mp (h.mem_alive_iff.mpr hp)).2

/-- The pool that is held was made. -/
lemma mem_made (h : w.InOrder) (hp : w.running = some p) : p ∈ w.made :=
  (List.mem_filter.mp (h.mem_alive_iff.mpr hp)).1

/-- Where a size is configured, no pool is running. -/
lemma configure (h : w.InOrder) (size : Option Int) : (w.configure size).InOrder where
  alive_eq := List.filter_eq_nil_iff.mpr fun p hp hlives =>
    of_decide_eq_true hlives <| List.mem_append.mpr <|
      (h.held_or_stopped hp).symm.imp_right Option.mem_toList.mpr
  size_eq _ hrunning := by contradiction
  number_lt := h.number_lt
  stopped_made p hp := (List.mem_append.mp hp).elim (h.stopped_made p) fun hheld =>
    h.mem_made (Option.mem_toList.mp hheld)

/-- A new pool is the only one that is running. -/
lemma grow (h : w.InOrder) (hrunning : w.running = none) (hsize : isSize w.configured = true) :
    w.grow.InOrder := by
  -- the number of a new pool is that of no pool before it, so it was not shut down
  have hfresh : w.next ∉ w.stopped := fun hstopped =>
    absurd (h.number_lt _ (h.stopped_made _ hstopped)) (Nat.lt_irrefl _)
  have hnone : w.alive = [] := by rw [h.alive_eq, hrunning, Option.toList_none]
  have hkept : [w.next].filter (· ∉ w.stopped) = [w.next] := List.filter_eq_self.mpr fun p hp => by
    rw [List.mem_singleton.mp hp]
    exact decide_eq_true hfresh
  refine ⟨?_, fun p hp => ?_, fun p hp => ?_, fun p hp => ?_⟩
  · calc w.grow.alive
        = w.alive ++ [w.next].filter (· ∉ w.stopped) := List.filter_append _ _
      _ = [w.next] := by rw [hnone, hkept, List.nil_append]
  · obtain rfl := Option.some.inj hp
    exact ⟨rfl, hsize⟩
  · have hlength : w.grow.made.length = w.made.length + 1 := List.length_append
    rw [hlength]
    rcases List.mem_append.mp hp with hold | hnew
    · exact Nat.lt_succ_of_lt (h.number_lt p hold)
    · rw [List.mem_singleton.mp hnew]
      exact Nat.lt_succ_self _
  · exact List.mem_append_left _ (h.stopped_made p hp)

/-- **A call keeps the state in order.** -/
theorem perform (h : w.InOrder) (c : PoolCall ε α) : (w.perform c).2.InOrder := by
  rcases w.perform_cases c with ⟨-, -, heq | ⟨hrunning, hsize, heq⟩⟩ | ⟨-, heq⟩ <;> rw [heq]
  · exact h
  · exact h.grow hrunning hsize
  · exact h.configure _

/-- **Calls keep the state in order.** -/
theorem after (h : w.InOrder) (calls : List (PoolCall ε α)) : (w.after calls).InOrder := by
  induction calls generalizing w with
  | nil => exact h
  | cons c calls ih => exact ih (h.perform c)

/-- Handing out a pool keeps the state in order. -/
lemma acquire (h : w.InOrder) (hgot : w.acquire = .ok (p, w')) : w'.InOrder := by
  rcases acquire_eq_ok hgot with ⟨-, rfl⟩ | ⟨hrunning, hsize, -, rfl⟩
  · exact h
  · exact h.grow hrunning hsize

/-- Under a size that no pool can have there is no pool. -/
lemma running_eq_none (h : w.InOrder) (hsize : isSize w.configured = false) : w.running = none :=
  Option.eq_none_iff_forall_ne_some.mpr fun p hp =>
    absurd (h.size_eq p hp).2 (hsize ▸ Bool.false_ne_true)

end InOrder

/-! ## The size -/

/-- **The size is the one that was configured last.** -/
theorem configured_after (w : Workers) (calls : List (PoolCall ε α)) :
    (w.after calls).configured = (calls.filterMap PoolCall.size?).getLastD w.configured := by
  induction calls generalizing w with
  | nil => rfl
  | cons c calls ih =>
      rw [after_cons, ih]
      rcases w.perform_cases c with ⟨-, hsize, heq | ⟨-, -, heq⟩⟩ | ⟨-, heq⟩ <;> rw [heq]
      · rw [List.filterMap_cons_none hsize]
      · rw [List.filterMap_cons_none hsize]
        rfl
      · cases hsize : c.size? with
        | none => rw [List.filterMap_cons_none hsize]; rfl
        | some size => rw [List.filterMap_cons_some hsize, List.getLastD_cons]; rfl

/-! ## The same pool -/

/-- A pool that was shut down stays so. -/
lemma stopped_perform (c : PoolCall ε α) (h : p ∈ w.stopped) : p ∈ (w.perform c).2.stopped := by
  rcases w.perform_cases c with ⟨-, -, heq | ⟨-, -, heq⟩⟩ | ⟨-, heq⟩ <;> rw [heq]
  · exact h
  · exact h
  · exact List.mem_append_left _ h

lemma stopped_after (calls : List (PoolCall ε α)) (h : p ∈ w.stopped) :
    p ∈ (w.after calls).stopped := by
  induction calls generalizing w with
  | nil => exact h
  | cons c calls ih => exact ih (stopped_perform c h)

/-- Where a pool is held, a call that does not shut it down changes nothing. -/
lemma perform_of_not_drops {c : PoolCall ε α} (h : w.running = some p) (hc : ¬ c.Drops) :
    (w.perform c).2 = w := by
  rcases w.perform_cases c with ⟨-, -, heq | ⟨hnone, -⟩⟩ | ⟨hdrops, -⟩
  · exact heq
  · exact absurd (h.symm.trans hnone) (Option.some_ne_none p)
  · exact absurd hdrops hc

/-- Where a pool is held, a call that shuts it down does so. -/
lemma stopped_of_drops {c : PoolCall ε α} (h : w.running = some p) (hc : c.Drops) :
    p ∈ (w.perform c).2.stopped := by
  rcases w.perform_cases c with ⟨hkeeps, -⟩ | ⟨-, heq⟩
  · exact absurd hc hkeeps
  · rw [heq]
    exact List.mem_append_right _ (Option.mem_toList.mpr h)

/-- **A pool that is held is held after some calls** or was shut down in their course. -/
lemma held_after (h : w.running = some p) :
    ∀ calls : List (PoolCall ε α),
      ¬ w.DropsIn calls ∧ (w.after calls).running = some p
      ∨ w.DropsIn calls ∧ p ∈ (w.after calls).stopped
  | [] => .inl ⟨fun ⟨before, c, behind, heq, _⟩ => by simp at heq, h⟩
  | c :: calls => by
      by_cases hc : c.Drops
      · exact .inr ⟨⟨[], c, calls, rfl, hc, Option.isSome_iff_exists.mpr ⟨p, h⟩⟩,
          stopped_after calls (stopped_of_drops h hc)⟩
      · have hsame := perform_of_not_drops h hc
        have hdrops : w.DropsIn (c :: calls) ↔ w.DropsIn calls := by
          constructor
          · rintro ⟨_ | ⟨c', before⟩, d, behind, heq, hd, hheld⟩
            · exact absurd ((List.cons.inj heq).1 ▸ hd) hc
            · obtain ⟨rfl, hrest⟩ := List.cons.inj heq
              rw [after_cons, hsame] at hheld
              exact ⟨before, d, behind, hrest, hd, hheld⟩
          · rintro ⟨before, d, behind, rfl, hd, hheld⟩
            exact ⟨c :: before, d, behind, rfl, hd, by rwa [after_cons, hsame]⟩
        rw [hdrops, after_cons, hsame]
        exact held_after h calls

/-- **Two calls give the same pool** exactly if it was not shut down between them. -/
theorem eq_iff_not_dropsIn (hw : w.InOrder) {w₁ w₂ : Workers} {calls : List (PoolCall ε α)}
    (hp : w.acquire = .ok (p, w₁)) (hq : (w₁.after calls).acquire = .ok (q, w₂)) :
    p = q ↔ ¬ w₁.DropsIn calls := by
  have horder := (hw.acquire hp).after calls
  rcases held_after (running_of_acquire hp) calls with ⟨hkeeps, hheld⟩ | ⟨hdrops, hstopped⟩
  · refine iff_of_true ?_ hkeeps
    rcases acquire_eq_ok hq with ⟨hrunning, -⟩ | ⟨hnone, -⟩
    · exact Option.some.inj (hheld.symm.trans hrunning)
    · exact absurd (hheld.symm.trans hnone) (Option.some_ne_none p)
  · refine iff_of_false (fun heq => ?_) (not_not.mpr hdrops)
    refine (horder.acquire hq).notMem_stopped (running_of_acquire hq) ?_
    rw [← heq]
    rcases acquire_eq_ok hq with ⟨-, hsame⟩ | ⟨-, -, -, hsame⟩ <;> rwa [hsame]

/-! ## Sizes that no pool can have -/

/-- **Under a size that no pool can have**, a call that needs one is refused and changes nothing. -/
lemma perform_refused {c : PoolCall ε α} (hrunning : w.running = none)
    (hsize : isSize w.configured = false) (hc : c.NeedsPool) :
    w.perform c = (.refused .noWorkers, w) := by
  have hacquire : w.acquire = .error .noWorkers := by
    rw [acquire, hrunning]
    exact if_neg (by rw [hsize]; exact Bool.false_ne_true)
  cases c with
  | configure size => exact hc.elim
  | shutdown => exact hc.elim
  | acquire => rw [perform, hacquire]
  | batch outcomes =>
      have hlength : outcomes.length ≠ 0 := mt List.length_eq_zero_iff.mp hc
      rw [perform, acquireFor, if_neg hlength, hacquire]
      rfl

/-- **Under a size that a pool can have**, one is handed out and batches are worked on. -/
lemma perform_configure (w : Workers) {size : Option Int} (hsize : isSize size = true) :
    (∃ p w', (w.configure size).acquire = .ok (p, w') ∧ p.size = size)
    ∧ ∀ outcomes : List (Except ε α),
        ((w.configure size).perform (.batch outcomes)).1 = .batch (collect outcomes) := by
  constructor
  · exact ⟨(w.configure size).next, _, if_pos hsize, rfl⟩
  · intro outcomes
    have hpossible : isSize (w.configure size).configured = true := hsize
    obtain ⟨w', hgot, -⟩ := exists_acquireFor hpossible outcomes.length
    rw [perform, hgot]

/-! ## After any calls -/

/-- **The pools of a process.**  After any calls,

1. at most one pool is running;
2. its size is the one that was configured last, of all sizes configured so far;
3. every pool that was made and is held no longer was shut down, and only such a pool;
4. asking for a pool and asking again after some more calls gives the same pool exactly if none of these
   shut it down;
5. under a size below one there is no pool, and every call that needs one is refused and changes nothing;
6. once a possible size is configured, a pool of that size is handed out, and batches are worked on;
7. an empty batch succeeds and changes nothing, in any state at all. -/
theorem pool_lifetime {calls : List (PoolCall ε α)} (hw : after {} calls = w) :
    w.alive.length ≤ 1
    ∧ (∀ p ∈ w.alive, p.size = (calls.filterMap PoolCall.size?).getLastD none)
    ∧ (∀ p ∈ w.made, p ∈ w.stopped ↔ w.running ≠ some p)
    ∧ (∀ (more : List (PoolCall ε α)) (p q : Pool) (w₁ w₂ : Workers),
        w.acquire = .ok (p, w₁) → (w₁.after more).acquire = .ok (q, w₂) →
          (p = q ↔ ¬ w₁.DropsIn more))
    ∧ (∀ n, w.configured = some n → n < 1 →
        w.running = none
        ∧ ∀ c : PoolCall ε α, c.NeedsPool → w.perform c = (.refused .noWorkers, w))
    ∧ (∀ size, (∀ n, size = some n → 1 ≤ n) →
        (∃ p w', (w.configure size).acquire = .ok (p, w') ∧ p.size = size)
        ∧ ∀ outcomes : List (Except ε α),
            ((w.configure size).perform (.batch outcomes)).1 = .batch (collect outcomes))
    ∧ ∀ v : Workers, v.perform (.batch ([] : List (Except ε α))) = (.batch (.ok []), v) := by
  have horder : w.InOrder := hw ▸ InOrder.init.after calls
  have hconfigured : w.configured = (calls.filterMap PoolCall.size?).getLastD none :=
    hw ▸ configured_after {} calls
  refine ⟨?_, fun p hp => ?_, fun p hp => ⟨fun hstopped hheld => ?_, fun hheld => ?_⟩,
    fun more p q w₁ w₂ => eq_iff_not_dropsIn horder, fun n hn hlt => ?_, fun size hsize => ?_,
    fun v => rfl⟩
  · rw [horder.alive_eq]
    exact Option.length_toList_le
  · rw [← hconfigured]
    exact (horder.size_eq p (horder.mem_alive_iff.mp hp)).1
  · exact horder.notMem_stopped hheld hstopped
  · exact (horder.held_or_stopped hp).resolve_left hheld
  · have hsize : isSize w.configured = false := by
      rw [hn]
      exact decide_eq_false (by omega)
    have hnone := horder.running_eq_none hsize
    exact ⟨hnone, fun c => perform_refused hnone hsize⟩
  · refine perform_configure w ?_
    cases size with
    | none => rfl
    | some n => exact decide_eq_true (hsize n rfl)

namespace Sample

/-- A pool of two, a size that no pool can have, a batch that is refused, and another size. -/
def calls : List (PoolCall String Nat) :=
  [.configure (some 2), .acquire, .configure (some 0), .batch [.ok 1], .shutdown, .configure (some 3)]

end Sample

/-- After a pool that was shut down and a size that none can have there is one of another size. -/
theorem pool_lifetime_resized :
    after {} Sample.calls = { configured := some 3, made := [⟨0, some 2⟩], stopped := [⟨0, some 2⟩] }
    ∧ ∃ p w', acquire (after {} Sample.calls) = .ok (p, w') ∧ p = ⟨1, some 3⟩
        ∧ ¬ w'.DropsIn [.batch [.ok 1, .error "two"], (.acquire : PoolCall String Nat)]
        ∧ w'.DropsIn [.batch [.ok 1], (.shutdown : PoolCall String Nat)] := by
  have hw : after {} Sample.calls
      = { configured := some 3, made := [⟨0, some 2⟩], stopped := [⟨0, some 2⟩] } := rfl
  obtain ⟨-, -, -, hsame, -⟩ := pool_lifetime hw
  refine ⟨hw, _, _, rfl, rfl, (hsame _ _ _ _ _ rfl rfl).mp rfl, ?_⟩
  exact not_not.mp fun hkeeps => absurd ((hsame _ _ _ _ _ rfl rfl).mpr hkeeps) (by decide)

end Workers

end FunctionChurn
