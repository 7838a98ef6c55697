import FunctionChurn.Proofs.Report.Ranking

/-!
# The counters of a run

Two counters say how much work a run has found and how much of it is done.  The messages to them come
from two passes over what was found, from the receivers that are folded away, and from look-ups that may
end in any order, so it is not plain that they fit together.

* `Progress.Counts` are the messages that counters can follow to the letter: the total is never held at
  zero, and never is more done than was found.
* `Extractor.counts_updates`: what is taken back of the total is never more than was added just before.
* `Reporter.Sends` are the messages of a run whose look-ups end in any order, `Reporter.MaySend` those of a
  reporter that collects rows.
* **`Reporter.accounted`** is what the counters show.
-/

namespace FunctionChurn

/-! ## Counters that follow messages -/

namespace Progress

/-- **Counters that are in order**: no more is done than was found. -/
structure Ordered (p : Progress) : Prop where
  nonneg : 0 ≤ p.done
  done_le : p.done ≤ p.total

/-- **Messages that counters follow to the letter**, from some state to another, through states that are in
order.  The total takes every number as it is. -/
inductive Counts : Progress → List Update → Progress → Prop
  | nil (p : Progress) : Counts p [] p
  | found {p q : Progress} {n : Int} {us : List Update} (ordered : Ordered ⟨p.total + n, p.done⟩)
      (rest : Counts ⟨p.total + n, p.done⟩ us q) : Counts p (.total n :: us) q
  | worked {p q : Progress} {n : Int} {us : List Update} (ordered : Ordered ⟨p.total, p.done + n⟩)
      (rest : Counts ⟨p.total, p.done + n⟩ us q) : Counts p (.done n :: us) q

/-- Where the total is not held, it takes the number as it is. -/
lemma apply_total {p : Progress} {n : Int} (h : Ordered ⟨p.total + n, p.done⟩) :
    p.apply (.total n) = ⟨p.total + n, p.done⟩ := by
  have hnonneg : 0 ≤ p.total + n := h.nonneg.trans h.done_le
  rw [apply, max_eq_right hnonneg]

/-- Messages one after the other. -/
lemma Counts.append {p q r : Progress} {us vs : List Update} (h : Counts p us q) (h' : Counts q vs r) :
    Counts p (us ++ vs) r := by
  induction h with
  | nil p => exact h'
  | found ordered rest ih => exact .found ordered (ih h')
  | worked ordered rest ih => exact .worked ordered (ih h')

/-- The counters get where they are said to get. -/
lemma Counts.applyAll_eq {p q : Progress} {us : List Update} (h : Counts p us q) : p.applyAll us = q := by
  induction h with
  | nil p => rfl
  | found ordered rest ih => rw [applyAll, List.foldl_cons, apply_total ordered, ← applyAll, ih]
  | worked ordered rest ih => exact ih

/-- The counters are in order after every message. -/
lemma Counts.ordered_of_mem {p q : Progress} {us : List Update} (h : Counts p us q) :
    ∀ r ∈ p.states us, r.Ordered := by
  induction h with
  | nil p => exact fun r hr => absurd hr List.not_mem_nil
  | found ordered rest ih =>
      rw [states, apply_total ordered, List.forall_mem_cons]
      exact ⟨ordered, ih⟩
  | worked ordered rest ih =>
      rw [states, List.forall_mem_cons]
      exact ⟨ordered, ih⟩

/-- The total is never held at zero. -/
lemma Counts.total_nonneg {p q : Progress} {us : List Update} (h : Counts p us q) :
    ∀ {vs : List Update} {n : Int} {ws : List Update}, us = vs ++ .total n :: ws →
      0 ≤ (p.applyAll vs).total + n := by
  induction h with
  | nil p => exact fun hsplit => by simp at hsplit
  | @found p q m us ordered rest ih =>
      intro vs n ws hsplit
      cases vs with
      | nil =>
          obtain ⟨hm, -⟩ := List.cons.inj hsplit
          obtain rfl : m = n := Update.total.inj hm
          exact ordered.nonneg.trans ordered.done_le
      | cons v vs =>
          obtain ⟨rfl, hrest⟩ := List.cons.inj hsplit
          rw [applyAll, List.foldl_cons, apply_total ordered, ← applyAll]
          exact ih hrest
  | @worked p q m us ordered rest ih =>
      intro vs n ws hsplit
      cases vs with
      | nil => exact absurd (List.cons.inj hsplit).1 (by simp)
      | cons v vs =>
          obtain ⟨rfl, hrest⟩ := List.cons.inj hsplit
          exact ih hrest

/-- So much is found, one by one. -/
lemma counts_found : ∀ (n : Nat) {p : Progress}, p.Ordered →
    Counts p (List.replicate n (.total 1)) ⟨p.total + n, p.done⟩
  | 0, p, _ => by
      rw [Int.ofNat_zero, Int.add_zero]
      exact .nil p
  | n + 1, p, h => by
      have hstep : Ordered ⟨p.total + 1, p.done⟩ := ⟨h.nonneg, Int.le_add_one h.done_le⟩
      have ih := counts_found n hstep
      have hsum : p.total + 1 + n = p.total + (n + 1 : Nat) := by omega
      rw [hsum] at ih
      exact .found hstep ih

/-- So much is done, one by one, if it was found before. -/
lemma counts_done : ∀ (n : Nat) {p : Progress}, 0 ≤ p.done → p.done + n ≤ p.total →
    Counts p (List.replicate n (.done 1)) ⟨p.total, p.done + n⟩
  | 0, p, _, _ => by
      rw [Int.ofNat_zero, Int.add_zero]
      exact .nil p
  | n + 1, p, hnonneg, hle => by
      have hsum : p.done + 1 + n = p.done + (n + 1 : Nat) := by omega
      have hstep : Ordered ⟨p.total, p.done + 1⟩ := by
        constructor <;> dsimp only <;> omega
      have ih := counts_done n hstep.nonneg (hsum.trans_le hle)
      rw [hsum] at ih
      exact .worked hstep ih

end Progress

/-! ## What an extraction says -/

/-- **The total grows by the number of elements that are kept**, and what is taken back is never more than
was added. -/
theorem Extractor.counts_updates (x : Extractor) (es : List Element) {p : Progress} (h : p.Ordered) :
    Progress.Counts p (x.updates es) ⟨p.total + (x.kept es).length, p.done⟩ := by
  have hlost := x.lost_add_length_kept es
  have hmatches := Progress.counts_found es.length h
  rw [updates]
  split
  · have hall : (x.kept es).length = es.length := by omega
    rw [List.append_nil, hall]
    exact hmatches
  · have hback : p.total + es.length + -(x.lost es : Int) = p.total + (x.kept es).length := by omega
    have hordered : Progress.Ordered ⟨p.total + es.length + -(x.lost es : Int), p.done⟩ := by
      rw [hback]
      exact ⟨h.nonneg, h.done_le.trans (by dsimp only; omega)⟩
    refine hmatches.append (.found hordered ?_)
    dsimp only
    rw [hback]
    exact .nil _

/-- The messages of an extraction count what it gives. -/
lemma Extractor.counts_of_extract {x : Extractor} {w : Workshop} {got : Extraction}
    (hgot : x.extract w = .ok got) {p : Progress} (h : p.Ordered) :
    Progress.Counts p got.updates ⟨p.total + got.elements.length, p.done⟩ := by
  unfold extract at hgot
  split at hgot
  · contradiction
  · cases hbroken : w.broken x.language with
    | some reason => simp [hbroken] at hgot
    | none =>
        rw [hbroken] at hgot
        obtain rfl := Except.ok.inj hgot
        exact x.counts_updates _ h

namespace Reporter

/-! ## What look-ups say -/

/-- A look-up says that it is done, if it succeeds. -/
lemma updates_score (s : Surroundings) (o : Options) (e : Element) :
    (score s o e).1.updates = List.replicate (score s o e).2.isOk.toNat (.done 1) := by
  unfold score
  dsimp only
  split <;> rfl

/-- What the look-ups for some elements say, one after the other. -/
def reports (s : Surroundings) (o : Options) (es : List Element) : List Progress.Update :=
  es.flatMap fun e => (score s o e).1.updates

/-- Each look-up that succeeds counts. -/
lemma reports_eq (s : Surroundings) (o : Options) (es : List Element) :
    reports s o es = List.replicate (es.countP fun e => (score s o e).2.isOk) (.done 1) := by
  induction es with
  | nil => rfl
  | cons e es ih =>
      rw [reports, List.flatMap_cons, ← reports, ih, updates_score, List.countP_cons]
      cases (score s o e).2.isOk <;> rfl

/-- If all look-ups of a batch succeed, then each of them counts. -/
lemma countP_of_collect {s : Surroundings} {o : Options} {es : List Element} {rows : List Row}
    (h : FunctionChurn.collect (es.map fun e => (score s o e).2) = .ok rows) :
    rows.length = es.length ∧ es.countP (fun e => (score s o e).2.isOk) = es.length := by
  have hmap := collect_eq_ok_iff.mp h
  refine ⟨?_, List.countP_eq_length.mpr fun e he => ?_⟩
  · simpa using (congrArg List.length hmap).symm
  · have hmem : (score s o e).2 ∈ rows.map Except.ok := hmap ▸ List.mem_map_of_mem he
    obtain ⟨row, -, hrow⟩ := List.mem_map.mp hmem
    rw [← hrow]
    rfl

/-- **The look-ups for what was found** count up to it, in whatever order they end. -/
lemma counts_reports (s : Surroundings) (o : Options) {order es : List Element} (h : order.Perm es)
    (k : Nat) : Progress.Counts ⟨k + es.length, k⟩ (reports s o order)
      ⟨k + es.length, k + es.countP fun e => (score s o e).2.isOk⟩ := by
  have hle : es.countP (fun e => (score s o e).2.isOk) ≤ es.length := List.countP_le_length
  rw [reports_eq, h.countP_eq]
  exact Progress.counts_done _ (by dsimp only; omega) (by dsimp only; omega)

/-! ## What a run says -/

/-- **The messages that a run over some extractors may send.**  An extractor that refuses says nothing.  The
look-ups for what another one gives end in any order; if one of them fails, the run is over, though only
after all of them. -/
inductive Sends (s : Surroundings) (o : Options) : List Extractor → List Progress.Update → Prop
  | nil : Sends s o [] []
  | refused {x : Extractor} {xs : List Extractor} {reason : ExtractError} {us : List Progress.Update}
      (refusal : x.extract s.workshop = .error reason) (rest : Sends s o xs us) : Sends s o (x :: xs) us
  | stopped {x : Extractor} {xs : List Extractor} {got : Extraction} {order : List Element}
      {failure : HistoryError} (extracted : x.extract s.workshop = .ok got)
      (ended : order.Perm got.elements)
      (failed : FunctionChurn.collect (got.elements.map fun e => (score s o e).2) = .error failure) :
      Sends s o (x :: xs) (got.updates ++ reports s o order)
  | scored {x : Extractor} {xs : List Extractor} {got : Extraction} {order : List Element}
      {rows : List Row} {us : List Progress.Update} (extracted : x.extract s.workshop = .ok got)
      (ended : order.Perm got.elements)
      (succeeded : FunctionChurn.collect (got.elements.map fun e => (score s o e).2) = .ok rows)
      (rest : Sends s o xs us) : Sends s o (x :: xs) (got.updates ++ reports s o order ++ us)

/-- The outcome of the first extractor decides whether there is a second. -/
lemma snd_rowsOfAll_cons (s : Surroundings) (o : Options) (x : Extractor) (xs : List Extractor) :
    (rowsOfAll s o (x :: xs)).2
      = match (rowsOf s o x).2 with
        | .ok rows => (rowsOfAll s o xs).2.map (rows ++ ·)
        | .error e => .error e := by
  rw [rowsOfAll]
  rcases rowsOf s o x with ⟨t, e | rows⟩ <;> rfl

/-- The outcome of an extractor is that of the look-ups for what it gives. -/
lemma snd_rowsOf_of_extract {s : Surroundings} (o : Options) {x : Extractor} {got : Extraction}
    (hgot : x.extract s.workshop = .ok got) :
    (rowsOf s o x).2 = FunctionChurn.collect (got.elements.map fun e => (score s o e).2) := by
  rw [snd_rowsOf, Extractor.found, hgot]

/-- An extractor that refuses has no rows. -/
lemma snd_rowsOf_of_refusal {s : Surroundings} (o : Options) {x : Extractor} {reason : ExtractError}
    (hrefusal : x.extract s.workshop = .error reason) : (rowsOf s o x).2 = .ok [] := by
  rw [snd_rowsOf, Extractor.found, hrefusal]
  rfl

/-- **What a run counts.**  When the counters agree, they follow all messages that the run may send; and
when there are rows, then both go up by the number of them. -/
theorem Sends.counts {s : Surroundings} {o : Options} {xs : List Extractor} {us : List Progress.Update}
    (h : Sends s o xs us) : ∀ k : Nat, ∃ q, Progress.Counts ⟨k, k⟩ us q
      ∧ ∀ rows, (rowsOfAll s o xs).2 = .ok rows → q = ⟨k + rows.length, k + rows.length⟩ := by
  have hlevel : ∀ k : Nat, Progress.Ordered ⟨k, k⟩ := fun k => ⟨Int.natCast_nonneg k, Int.le_refl k⟩
  induction h with
  | nil =>
      refine fun k => ⟨_, .nil _, fun rows hrows => ?_⟩
      obtain rfl : [] = rows := Except.ok.inj hrows
      simp
  | @refused x xs reason us refusal rest ih =>
      intro k
      obtain ⟨q, hcounts, hq⟩ := ih k
      refine ⟨q, hcounts, fun rows hrows => hq rows ?_⟩
      rw [snd_rowsOfAll_cons, snd_rowsOf_of_refusal o refusal] at hrows
      cases hrest : (rowsOfAll s o xs).2 with
      | error e => simp [hrest, Except.map] at hrows
      | ok more => simpa [hrest, Except.map] using hrows
  | @stopped x xs got order failure extracted ended failed =>
      intro k
      have hfound := Extractor.counts_of_extract extracted (hlevel k)
      refine ⟨_, hfound.append (counts_reports s o ended k), fun rows hrows => ?_⟩
      rw [snd_rowsOfAll_cons, snd_rowsOf_of_extract o extracted, failed] at hrows
      contradiction
  | @scored x xs got order found us extracted ended succeeded rest ih =>
      intro k
      obtain ⟨hlength, hall⟩ := countP_of_collect succeeded
      have hfound := Extractor.counts_of_extract extracted (hlevel k)
      have hscored := hfound.append (counts_reports s o ended k)
      rw [hall, ← Int.natCast_add] at hscored
      obtain ⟨q, hcounts, hq⟩ := ih (k + got.elements.length)
      refine ⟨q, hscored.append hcounts, fun rows hrows => ?_⟩
      rw [snd_rowsOfAll_cons, snd_rowsOf_of_extract o extracted, succeeded] at hrows
      cases hrest : (rowsOfAll s o xs).2 with
      | error e => simp [hrest, Except.map] at hrows
      | ok more =>
          rw [hrest] at hrows
          obtain rfl : found ++ more = rows := Except.ok.inj hrows
          rw [hq more hrest, List.length_append, hlength]
          simp only [Int.natCast_add, Int.add_assoc]

/-! ## The messages of the program -/

lemma updates_join : ∀ ts : List Trace, (Trace.join ts).updates = ts.flatMap Trace.updates
  | [] => rfl
  | t :: ts => by rw [Trace.join, Trace.updates_append, updates_join ts, List.flatMap_cons]

/-- The look-ups of a batch report one after the other. -/
lemma updates_scoreAll (s : Surroundings) (o : Options) (es : List Element) :
    (scoreAll s o es).1.updates = reports s o es := by
  simp only [scoreAll, updates_join, List.map_map, List.flatMap_map, Function.comp_apply, reports]

/-- What is said for an extractor: what the extraction says, and then the look-ups. -/
lemma updates_rowsOf {s : Surroundings} (o : Options) {x : Extractor} {got : Extraction}
    (hgot : x.extract s.workshop = .ok got) :
    (rowsOf s o x).1.updates = got.updates ++ reports s o got.elements := by
  have hbatch := updates_scoreAll s o got.elements
  simp only [rowsOf, hgot]
  split
  · next t e hscore =>
      rw [hscore] at hbatch
      rw [← hbatch]
      rfl
  · next t rows hscore =>
      rw [hscore] at hbatch
      rw [← hbatch, Trace.updates_append, Trace.updates_append]
      exact List.append_nil _

/-- An extractor that refuses says nothing. -/
lemma updates_rowsOf_of_refusal {s : Surroundings} (o : Options) {x : Extractor} {reason : ExtractError}
    (hrefusal : x.extract s.workshop = .error reason) : (rowsOf s o x).1.updates = [] := by
  simp only [rowsOf, hrefusal]
  cases reason <;> rfl

/-- **A run sends messages that it may send**, those of look-ups that end in their order. -/
theorem sends_rowsOfAll (s : Surroundings) (o : Options) :
    ∀ xs : List Extractor, Sends s o xs (rowsOfAll s o xs).1.updates
  | [] => .nil
  | x :: xs => by
      have ih := sends_rowsOfAll s o xs
      have houtcome := snd_rowsOf s o x
      rw [rowsOfAll]
      cases hgot : x.extract s.workshop with
      | error reason =>
          have hnone := updates_rowsOf_of_refusal o hgot
          have hrows := snd_rowsOf_of_refusal o hgot
          rcases hrow : rowsOf s o x with ⟨t, e | rows⟩
          · simp [hrow] at hrows
          · rw [hrow] at hnone
            dsimp only at hnone ⊢
            rw [Trace.updates_append, hnone, List.nil_append]
            exact .refused hgot ih
      | ok got =>
          have hupdates := updates_rowsOf o hgot
          have hrows := snd_rowsOf_of_extract o hgot
          rcases hrow : rowsOf s o x with ⟨t, e | rows⟩
          · rw [hrow] at hupdates hrows
            dsimp only at hupdates ⊢
            rw [hupdates]
            exact .stopped hgot (List.Perm.refl _) hrows.symm
          · rw [hrow] at hupdates hrows
            dsimp only at hupdates ⊢
            rw [Trace.updates_append, hupdates]
            exact .scored hgot (List.Perm.refl _) hrows.symm ih

/-! ## A reporter that collects -/

/-- The files that a reporter discovers. -/
def sought (s : Surroundings) (r : Reporter) : List SourceFile :=
  discover (narrowed r.options r.filter) (s.listing r.options.root)

/-- The extractors of a reporter, with the files queued and the terms known. -/
def laden (s : Surroundings) (r : Reporter) : List Extractor :=
  filterNames r.options.excludeFunc
    (dispatchAll s r.options.verbosity r.extractors (sought s r)).2

/-- **The messages that a reporter may send while it collects**; none without files. -/
def MaySend (s : Surroundings) (r : Reporter) (us : List Progress.Update) : Prop :=
  if sought s r = [] then us = [] else Sends s r.options (laden s r) us

/-- What collecting comes to, if there are files. -/
lemma collect_of_sought {s : Surroundings} {r : Reporter} (h : sought s r ≠ []) :
    (r.collect s).1.updates = (rowsOfAll s r.options (laden s r)).1.updates
      ∧ (r.collect s).2.2 = (rowsOfAll s r.options (laden s r)).2.mapError .history := by
  have hfiles : discover (narrowed r.options r.filter) (s.listing r.options.root) ≠ [] := h
  have hdispatch := updates_dispatchAll s r.options.verbosity (sought s r) r.extractors
  have hqueued : (dispatchAll s r.options.verbosity r.extractors (sought s r))
      = dispatchAll s r.options.verbosity r.extractors
          (discover (narrowed r.options r.filter) (s.listing r.options.root)) := rfl
  rw [hqueued] at hdispatch
  simp only [collect, if_neg hfiles, collectFrom, Trace.updates_append, hdispatch]
  constructor
  · rfl
  · simp only [laden, hqueued]
    cases (rowsOfAll s r.options _).2 <;> rfl

/-- Without files there is nothing to say, and no row. -/
lemma collect_of_not_sought {s : Surroundings} {r : Reporter} (h : sought s r = []) :
    (r.collect s).1.updates = [] ∧ (r.collect s).2.2 = .error .noFiles := by
  have hfiles : discover (narrowed r.options r.filter) (s.listing r.options.root) = [] := h
  unfold collect
  dsimp only
  rw [if_pos hfiles]
  exact ⟨rfl, rfl⟩

/-- A reporter sends messages that it may send. -/
lemma maySend_collect (s : Surroundings) (r : Reporter) : r.MaySend s (r.collect s).1.updates := by
  unfold MaySend
  split
  · next hnone => exact (collect_of_not_sought hnone).1
  · next hfiles =>
      rw [(collect_of_sought hfiles).1]
      exact sends_rowsOfAll s r.options (laden s r)

/-- Fresh counters follow what a reporter may send to the number of its rows. -/
lemma MaySend.counts {s : Surroundings} {r : Reporter} {us : List Progress.Update} (h : r.MaySend s us) :
    ∃ q, Progress.Counts {} us q
      ∧ ∀ rows, (r.collect s).2.2 = .ok rows → q = ⟨rows.length, rows.length⟩ := by
  unfold MaySend at h
  split at h
  · next hnone =>
      subst h
      refine ⟨_, .nil _, fun rows hrows => ?_⟩
      rw [(collect_of_not_sought hnone).2] at hrows
      contradiction
  · next hfiles =>
      obtain ⟨q, hcounts, hq⟩ := h.counts 0
      refine ⟨q, hcounts, fun rows hrows => ?_⟩
      rw [(collect_of_sought hfiles).2] at hrows
      cases hall : (rowsOfAll s r.options (laden s r)).2 with
      | error e => simp [hall, Except.mapError] at hrows
      | ok found =>
          rw [hall] at hrows
          obtain rfl : found = rows := Except.ok.inj hrows
          simpa using hq found hall

/-- **The counters show the work.**  A reporter that collects sends messages that it may send.  Whatever it
sends of these to counters that are fresh, so in whatever order its look-ups end,

1. after every message no more is done than was found, and neither number is negative;
2. the total takes every number as it is, and is never held at zero;
3. if there are rows, then in the end both numbers are the number of rows. -/
theorem accounted (s : Surroundings) (r : Reporter) :
    r.MaySend s (r.collect s).1.updates
    ∧ ∀ us, r.MaySend s us →
      (∀ p ∈ Progress.states {} us, 0 ≤ p.done ∧ p.done ≤ p.total)
      ∧ (∀ vs n ws, us = vs ++ .total n :: ws →
          ((Progress.applyAll {} vs).apply (.total n)).total = (Progress.applyAll {} vs).total + n)
      ∧ ∀ rows, (r.collect s).2.2 = .ok rows →
          Progress.applyAll {} us = ⟨rows.length, rows.length⟩ := by
  refine ⟨maySend_collect s r, fun us hsent => ?_⟩
  obtain ⟨q, hcounts, hq⟩ := hsent.counts
  refine ⟨fun p hp => ?_, fun vs n ws hsplit => ?_, fun rows hrows => ?_⟩
  · have hordered := hcounts.ordered_of_mem p hp
    exact ⟨hordered.nonneg, hordered.done_le⟩
  · exact max_eq_right (hcounts.total_nonneg hsplit)
  · rw [hcounts.applyAll_eq, hq rows hrows]

/-- The messages about the small tree: three matches of Go, one of which is folded into another, and a
look-up for each of the others; then the same for the other languages. -/
theorem accounted_reporter : ∃ us, Sample.reporter.MaySend Sample.tree us
    ∧ us = List.replicate 3 (.total 1) ++ [.total (-1), .done 1, .done 1]
        ++ List.replicate 4 (.total 1) ++ List.replicate 4 (.done 1) ++ [.total 1, .done 1]
    ∧ Progress.applyAll {} us = ⟨7, 7⟩ := by
  have hfiles : sought Sample.tree Sample.reporter = Sample.files := Sample.discovered_tree
  have hequipped : Sample.tree.equipped {}
      = fun l => ⟨l, Sample.files.filter (takes Sample.tree l), []⟩ := by
    funext l
    rw [Surroundings.equipped, Sample.discovered_tree]
  have hladen : laden Sample.tree Sample.reporter
      = Language.searched.map fun l => ⟨l, Sample.files.filter (takes Sample.tree l), []⟩ := by
    rw [← hequipped]
    exact Sample.tree.filterNames_dispatchAll {}
  have hrows : (Sample.reporter.collect Sample.tree).2.2 = .ok Sample.rows :=
    (Surroundings.collected_of_open Sample.open_reporter).symm.trans Sample.collected_tree
  obtain ⟨hsent, hcounts⟩ := accounted Sample.tree Sample.reporter
  refine ⟨_, hsent, ?_, (hcounts _ hsent).2.2 _ hrows⟩
  rw [(collect_of_sought (by rw [hfiles]; exact List.cons_ne_nil _ _)).1, hladen]
  decide +kernel

end Reporter

end FunctionChurn
