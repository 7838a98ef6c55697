import FunctionChurn.Proofs.Extraction
import FunctionChurn.Proofs.Workers
import FunctionChurn.Report.Run

/-!
# The steps of a report

Each step of a report is described here by what it leaves, so that nobody has to look into it again.

* `Surroundings.Ready` says when a report can be prepared, `Reporter.open_eq` what is prepared.
* `Reporter.snd_dispatchAll`: dispatching gives every extractor the files of its language, in the order
  in which they were found, behind those it had.
* `Reporter.score_eq_ok_iff` is one look-up, **`Reporter.snd_rowsOfAll`** all look-ups of a report as
  one batch over all that was found.
* The lemmas on `calls` say which programs a step called.
-/

namespace FunctionChurn

/-! ## Preparing -/

/-- **When a report can be prepared**: the directory belongs to a work tree, and the grammars and
queries of all languages can be loaded. -/
def Surroundings.Ready (s : Surroundings) (o : Options) : Prop :=
  (Reporter.inspector o).probe s.git = .ok ()
    ∧ (Reporter.equip s.supplies {} Language.searched).isOk

namespace Reporter

/-- Extractors that are prepared have neither files nor terms. -/
lemma equip_eq_ok {s : Supplies} :
    ∀ {r : Registry} {ls : List Language} {xs : List Extractor},
      equip s r ls = .ok xs → xs = ls.map fun l => { language := l }
  | _, [], xs, h => by simpa [equip] using h.symm
  | r, l :: ls, xs, h => by
      rw [equip] at h
      split at h
      · simp at h
      · next r' _ =>
          cases hrest : equip s r' ls with
          | error e => simp [hrest, Except.map] at h
          | ok ys =>
              rw [hrest] at h
              simp only [Except.map, Except.ok.injEq] at h
              rw [← h, equip_eq_ok hrest, List.map_cons]

/-- **What is prepared**, if anything can be: fresh extractors, after one call. -/
theorem open_eq {s : Surroundings} {o : Options} (h : s.Ready o) :
    «open» s o Language.searched
      = ({ calls := [(inspector o).probeCall] },
          .ok { options := o, extractors := Language.searched.map fun l => { language := l } }) := by
  obtain ⟨hprobe, hequip⟩ := h
  cases hxs : equip s.supplies {} Language.searched with
  | error e => simp [hxs, Except.isOk, Except.toBool] at hequip
  | ok xs => simp only [«open», hprobe, hxs, equip_eq_ok hxs]

/-- Preparing a report calls one program, and does nothing else that is seen. -/
lemma fst_open (s : Surroundings) (o : Options) (ls : List Language) :
    («open» s o ls).1 = { calls := [(inspector o).probeCall] } := by
  unfold «open»
  split
  · rfl
  · split <;> rfl

/-- A report that was prepared could be prepared. -/
theorem ready_of_open {s : Surroundings} {o : Options} {t : Trace} {r : Reporter}
    (h : «open» s o Language.searched = (t, .ok r)) : s.Ready o := by
  unfold «open» at h
  split at h
  · simp at h
  · next hprobe =>
      split at h
      · simp at h
      · next xs hxs => exact ⟨hprobe, by rw [hxs]; rfl⟩

/-- With other choices a report is prepared alike, if the same program is asked about the same directory. -/
lemma open_map (s : Surroundings) {o : Options} (f : Options → Options)
    (h : inspector (f o) = inspector o) (ls : List Language) :
    «open» s (f o) ls
      = ((«open» s o ls).1, («open» s o ls).2.map fun r => { r with options := f r.options }) := by
  simp only [«open», h]
  cases (inspector o).probe s.git with
  | error e => rfl
  | ok _ => cases equip s.supplies {} ls <;> rfl

/-! ## Dispatch -/

/-- Whether a file goes to the extractor of a language. -/
def takes (s : Surroundings) (l : Language) (f : SourceFile) : Bool :=
  f.language = l && f.language ≠ .unsupported && !s.refused f.language

/-- Queueing reaches the one extractor of the file's language. -/
lemma queue_eq (f : SourceFile) :
    ∀ xs : List Extractor, (xs.map Extractor.language).Nodup → covers xs f.language →
      queue f xs
        = xs.map fun x => if f.language = x.language then { x with files := x.files ++ [f] } else x
  | [], _, hcovers => by simp [covers] at hcovers
  | x :: xs, hnodup, hcovers => by
      rw [List.map_cons, List.nodup_cons] at hnodup
      rw [queue, List.map_cons]
      by_cases hrest : covers xs f.language
      · have hne : f.language ≠ x.language := by
          rintro heq
          simp only [covers, List.any_eq_true, beq_iff_eq, heq] at hrest
          obtain ⟨y, hy, hlang⟩ := hrest
          exact hnodup.1 (List.mem_map.mpr ⟨y, hy, hlang⟩)
        rw [if_pos hrest, if_neg hne, queue_eq f xs hnodup.2 hrest]
      · have heq : f.language = x.language := by
          simp only [covers, List.any_cons, Bool.or_eq_true, beq_iff_eq] at hcovers hrest
          exact (hcovers.resolve_right hrest).symm
        have hothers : ∀ y ∈ xs, ¬ f.language = y.language := fun y hy h =>
          hrest (List.any_eq_true.mpr ⟨y, hy, by simp [h]⟩)
        rw [if_neg hrest, if_pos heq]
        simp only [Extractor.add, Extractor.supports, heq, decide_true, if_true]
        congr 1
        refine (List.map_id xs).symm.trans (List.map_congr_left fun y hy => ?_)
        rw [← heq, if_neg (hothers y hy), id]

/-- **A file that is dispatched** stands behind the files of the extractor that takes it. -/
lemma snd_dispatch (s : Surroundings) (v : Int) (xs : List Extractor) (f : SourceFile)
    (hnodup : (xs.map Extractor.language).Nodup) :
    (dispatch s v xs f).2
      = xs.map fun x => if takes s x.language f then { x with files := x.files ++ [f] } else x := by
  unfold dispatch
  split
  · next h =>
      refine (List.map_id xs).symm.trans (List.map_congr_left fun x hx => ?_)
      rw [if_neg, id]
      simp only [takes, Bool.and_eq_true, decide_eq_true_eq, Bool.not_eq_true', not_and]
      rintro ⟨hlang, hsupported⟩
      refine absurd h (not_or.mpr ⟨hsupported, not_not.mpr ?_⟩)
      exact List.any_eq_true.mpr ⟨x, hx, by simp [hlang]⟩
  · next h =>
      obtain ⟨hsupported, hcovers⟩ := not_or.mp h
      split
      · next hrefused =>
          refine (List.map_id xs).symm.trans (List.map_congr_left fun x _ => ?_)
          rw [if_neg, id]
          simp [takes, hrefused]
      · next hrefused =>
          rw [queue_eq f xs hnodup (not_not.mp hcovers)]
          refine List.map_congr_left fun x _ => ?_
          simp [takes, hsupported, hrefused]

/-- **Dispatching** gives every extractor the files that it takes, in their order. -/
theorem snd_dispatchAll (s : Surroundings) (v : Int) :
    ∀ (files : List SourceFile) (xs : List Extractor), (xs.map Extractor.language).Nodup →
      (dispatchAll s v xs files).2
        = xs.map fun x => { x with files := x.files ++ files.filter (takes s x.language) }
  | [], xs, _ => by simp [dispatchAll]
  | f :: files, xs, hnodup => by
      have hlang : (dispatch s v xs f).2.map Extractor.language = xs.map Extractor.language := by
        rw [snd_dispatch s v xs f hnodup, List.map_map]
        refine List.map_congr_left fun x _ => ?_
        simp only [Function.comp_apply]
        split <;> rfl
      have ih := snd_dispatchAll s v files (dispatch s v xs f).2 (by rwa [hlang])
      simp only [dispatchAll]
      rw [ih, snd_dispatch s v xs f hnodup, List.map_map]
      refine List.map_congr_left fun x _ => ?_
      by_cases h : takes s x.language f
      · simp [h]
      · simp [h]

/-- Dispatching only writes records. -/
lemma exists_records_dispatch (s : Surroundings) (v : Int) (xs : List Extractor) (f : SourceFile) :
    ∃ rs, (dispatch s v xs f).1 = { records := rs } := by
  unfold dispatch
  split
  · split <;> exact ⟨_, rfl⟩
  · split
    · exact ⟨_, rfl⟩
    · dsimp only
      split <;> exact ⟨_, rfl⟩

/-- Dispatching several files only writes records. -/
lemma exists_records_dispatchAll (s : Surroundings) (v : Int) :
    ∀ (files : List SourceFile) (xs : List Extractor),
      ∃ rs, (dispatchAll s v xs files).1 = { records := rs }
  | [], _ => ⟨[], rfl⟩
  | f :: files, xs => by
      obtain ⟨first, hfirst⟩ := exists_records_dispatch s v xs f
      obtain ⟨rest, hrest⟩ := exists_records_dispatchAll s v files (dispatch s v xs f).2
      refine ⟨first ++ rest, ?_⟩
      simp only [dispatchAll, hfirst, hrest]
      rfl

/-- Dispatching calls no program. -/
lemma calls_dispatchAll (s : Surroundings) (v : Int) (files : List SourceFile)
    (xs : List Extractor) : (dispatchAll s v xs files).1.calls = [] := by
  obtain ⟨rs, hrs⟩ := exists_records_dispatchAll s v files xs
  rw [hrs]

/-- Dispatching sends no progress message. -/
lemma updates_dispatchAll (s : Surroundings) (v : Int) (files : List SourceFile)
    (xs : List Extractor) : (dispatchAll s v xs files).1.updates = [] := by
  obtain ⟨rs, hrs⟩ := exists_records_dispatchAll s v files xs
  rw [hrs]

/-- Terms are put behind those that an extractor had. -/
lemma foldl_filterName (x : Extractor) :
    ∀ terms : List String,
      terms.foldl Extractor.filterName x = { x with filters := x.filters ++ terms }
  | [] => by simp
  | term :: terms => by
      rw [List.foldl_cons, foldl_filterName (x.filterName term) terms]
      simp [Extractor.filterName]

/-! ## Look-ups -/

/-- The call that asks for the history of an element. -/
def callFor (s : Surroundings) (o : Options) (e : Element) : Call :=
  (inspector o).lookupCall (Path.relative s.cwd e.file o.root) e.name

end Reporter

/-- **The number of commits in a reply**; one that is no text counts as none.  The status of the
program does not matter. -/
def CallResult.changes (reply : CallResult) : Nat :=
  match Utf8.decode reply.output with
  | .ok text => (commits text).length
  | .error _ => 0

namespace Reporter

/-- **A look-up succeeds if the program can be launched**, and then its row holds the number of
commits in the reply. -/
theorem score_eq_ok_iff {s : Surroundings} {o : Options} {e : Element} {found : Row} :
    (score s o e).2 = .ok found
      ↔ ∃ reply, s.git (callFor s o e) = .ok reply ∧ found = row e reply.changes := by
  simp only [score, Inspector.lookup, callFor, CallResult.changes]
  cases s.git ((inspector o).lookupCall (Path.relative s.cwd e.file o.root) e.name) with
  | error fault => simp
  | ok reply =>
      simp only [Except.ok.injEq, exists_eq_left']
      cases Utf8.decode reply.output with
      | error m => exact ⟨fun h => (Except.ok.inj h).symm, fun h => congrArg _ h.symm⟩
      | ok text => exact ⟨fun h => (Except.ok.inj h).symm, fun h => congrArg _ h.symm⟩

/-- A look-up calls one program. -/
lemma calls_score (s : Surroundings) (o : Options) (e : Element) :
    (score s o e).1.calls = [callFor s o e] := by
  simp only [score, callFor]
  split <;> simp [undecodable, Trace.record]

lemma calls_join : ∀ ts : List Trace, (Trace.join ts).calls = ts.flatMap Trace.calls
  | [] => rfl
  | t :: ts => by rw [Trace.join, Trace.calls_append, calls_join ts, List.flatMap_cons]

/-- The look-ups of a batch call one program for each element, in order. -/
lemma calls_scoreAll (s : Surroundings) (o : Options) (es : List Element) :
    (scoreAll s o es).1.calls = es.map (callFor s o) := by
  simp only [scoreAll, calls_join, List.map_map, List.flatMap_map, Function.comp_apply,
    calls_score]
  exact List.map_eq_flatMap.symm

/-- **The rows of one extractor** are the outcome of the look-ups for what it finds. -/
lemma snd_rowsOf (s : Surroundings) (o : Options) (x : Extractor) :
    (rowsOf s o x).2
      = FunctionChurn.collect ((x.found s.workshop).map fun e => (score s o e).2) := by
  unfold rowsOf Extractor.found
  cases x.extract s.workshop with
  | error e => cases e <;> rfl
  | ok got =>
      simp only [scoreAll, List.map_map, Function.comp_def]
      cases FunctionChurn.collect (got.elements.map fun e => (score s o e).2) <;> rfl

/-- One program is called for each element that an extractor finds, in order. -/
lemma calls_rowsOf (s : Surroundings) (o : Options) (x : Extractor) :
    (rowsOf s o x).1.calls = (x.found s.workshop).map (callFor s o) := by
  unfold rowsOf Extractor.found
  cases x.extract s.workshop with
  | error e => cases e <;> rfl
  | ok got =>
      have h := calls_scoreAll s o got.elements
      dsimp only
      split
      · next t e hscore =>
          rw [hscore] at h
          simpa using h
      · next t rows hscore =>
          rw [hscore] at h
          simpa [Trace.record] using h

/-- **The look-ups of a report are one batch**, over all that its extractors find. -/
theorem snd_rowsOfAll (s : Surroundings) (o : Options) :
    ∀ xs : List Extractor,
      (rowsOfAll s o xs).2
        = FunctionChurn.collect
            ((xs.flatMap fun x => x.found s.workshop).map fun e => (score s o e).2)
  | [] => rfl
  | x :: xs => by
      rw [List.flatMap_cons, List.map_append, collect_append, ← snd_rowsOf, ← snd_rowsOfAll s o xs,
        rowsOfAll]
      rcases rowsOf s o x with ⟨t, e | rows⟩
      · rfl
      · rfl

/-- Several extractors have the same rows with other choices, if each of them has. -/
lemma rowsOfAll_congr {s : Surroundings} {o o' : Options} (h : ∀ x, rowsOf s o' x = rowsOf s o x) :
    ∀ xs : List Extractor, rowsOfAll s o' xs = rowsOfAll s o xs
  | [] => rfl
  | x :: xs => by rw [rowsOfAll, rowsOfAll, h, rowsOfAll_congr h xs]

/-- When no look-up fails, one program is called for each element that is found, in order. -/
theorem calls_rowsOfAll (s : Surroundings) (o : Options) :
    ∀ (xs : List Extractor) {rows : List Row}, (rowsOfAll s o xs).2 = .ok rows →
      (rowsOfAll s o xs).1.calls = (xs.flatMap fun x => x.found s.workshop).map (callFor s o)
  | [], _, _ => rfl
  | x :: xs, rows, h => by
      have hx := calls_rowsOf s o x
      rw [List.flatMap_cons, List.map_append, ← hx]
      rw [rowsOfAll] at h ⊢
      split at h
      · simp at h
      · next t found hrow =>
          cases hrest : (rowsOfAll s o xs).2 with
          | error e => simp [hrest, Except.map] at h
          | ok rest => simp only [hrow, Trace.calls_append, calls_rowsOfAll s o xs hrest]

end Reporter

end FunctionChurn
