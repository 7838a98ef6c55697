import FunctionChurn.Proofs.Report.Manners

/-!
# What more records to see do to a report

The number of `-V` is used twice: it decides which records are shown, and while files are handed to their
extractors it decides which records are made at all.  The two have different thresholds, but a record that is not
made for want of `-V` would not be shown either.

* `Trace.seenAt` is what is left of a step for someone who sees the records of a verbosity.
* `Reporter.dispatchAll_verbosity`: files are handed out alike at all verbosities.
* **`Surroundings.report_verbosity`**: so are whole reports, and what is seen of a report at one verbosity can be
  read off the report at any higher one.
* `Journal.lines_sublist`: more `-V` add lines to the error stream, and take none away.
-/

namespace FunctionChurn

/-! ## Thresholds -/

namespace Level

variable {c c' : Int}

/-- More `-V` show more. -/
lemma ofCount_antitone (h : c ≤ c') : ofCount c' ≤ ofCount c := by
  unfold ofCount
  split_ifs <;> first | omega | decide

/-- Warnings are shown from the second `-V` on. -/
lemma two_le_of_warning (h : ofCount c ≤ warning) : 2 ≤ c := by
  unfold ofCount at h
  split_ifs at h
  · exact absurd h (by decide)
  · exact absurd h (by decide)
  all_goals omega

/-- What is less important is shown from the third `-V` on. -/
lemma three_le_of_info (h : ofCount c ≤ info) : 3 ≤ c := by
  unfold ofCount at h
  split_ifs at h
  · exact absurd h (by decide)
  · exact absurd h (by decide)
  · exact absurd h (by decide)
  all_goals omega

end Level

/-! ## What is seen of a step -/

namespace Trace

variable {c c' : Int}

/-- **A step as it is seen with a number of `-V`**: all that is done, and the records that are shown. -/
def seenAt (c : Int) (t : Trace) : Trace :=
  { t with records := t.records.filter fun r => Level.ofCount c ≤ r.level }

@[simp] lemma calls_seenAt (t : Trace) : (t.seenAt c).calls = t.calls := rfl

@[simp] lemma updates_seenAt (t : Trace) : (t.seenAt c).updates = t.updates := rfl

@[simp] lemma batches_seenAt (t : Trace) : (t.seenAt c).batches = t.batches := rfl

@[simp] lemma seenAt_append (t u : Trace) : (t ++ u).seenAt c = t.seenAt c ++ u.seenAt c := by
  show seenAt c ⟨_, t.records ++ u.records, _, _⟩ = _
  rw [seenAt, List.filter_append]
  rfl

/-- A record that is not shown makes no difference. -/
lemma seenAt_record {level : Level} (h : ¬ Level.ofCount c ≤ level) (source message : String) :
    (record level source message).seenAt c = {} := by
  simp [seenAt, record, h]

/-- **A record that is made on two conditions** is seen alike, if the conditions agree whenever it is shown. -/
lemma seenAt_gated {p q : Prop} [Decidable p] [Decidable q] {level : Level}
    (h : Level.ofCount c ≤ level → (p ↔ q)) (source message : String) :
    (if p then record level source message else {}).seenAt c
      = (if q then record level source message else {}).seenAt c := by
  by_cases hshown : Level.ofCount c ≤ level
  · rw [if_congr (h hshown) rfl rfl]
  · have hempty : seenAt c {} = {} := rfl
    rw [apply_ite (seenAt c), apply_ite (seenAt c), seenAt_record hshown, hempty, ite_self, ite_self]

end Trace

/-! ## Handing out files -/

namespace Reporter

variable (s : Surroundings) {c c' : Int}

/-- **A file is handed out alike** at all verbosities, and whoever sees the records of the lower one of two sees no
difference. -/
lemma dispatch_verbosity (h : c ≤ c') (xs : List Extractor) (f : SourceFile) :
    (dispatch s c xs f).1.seenAt c = (dispatch s c' xs f).1.seenAt c
      ∧ (dispatch s c xs f).2 = (dispatch s c' xs f).2 := by
  unfold dispatch
  split
  · -- the warning is made from the first `-V` on, and shown from the second
    refine ⟨Trace.seenAt_gated (fun hshown => ?_) _ _, rfl⟩
    have hc := Level.two_le_of_warning hshown
    omega
  · split
    · exact ⟨rfl, rfl⟩
    · -- the other record is made from the second on, and shown from the third
      refine ⟨Trace.seenAt_gated (fun hshown => ?_) _ _, rfl⟩
      have hc := Level.three_le_of_info hshown
      omega

/-- **Files are handed out alike** at all verbosities. -/
theorem dispatchAll_verbosity (h : c ≤ c') :
    ∀ (files : List SourceFile) (xs : List Extractor),
      (dispatchAll s c xs files).1.seenAt c = (dispatchAll s c' xs files).1.seenAt c
        ∧ (dispatchAll s c xs files).2 = (dispatchAll s c' xs files).2
  | [], _ => ⟨rfl, rfl⟩
  | f :: files, xs => by
      obtain ⟨hfirst, hxs⟩ := dispatch_verbosity s h xs f
      obtain ⟨hrest, hys⟩ := dispatchAll_verbosity h files (dispatch s c xs f).2
      simp only [dispatchAll, Trace.seenAt_append, ← hxs]
      exact ⟨by rw [hfirst, hrest], hys⟩

/-! ## Reports -/

/-- Look-ups do not depend on the verbosity. -/
lemma rowsOfAll_verbosity (o : Options) (v : Int) (xs : List Extractor) :
    rowsOfAll s { o with verbosity := v } xs = rowsOfAll s o xs := by
  have hx : ∀ x, rowsOf s { o with verbosity := v } x = rowsOf s o x := fun _ => rfl
  exact rowsOfAll_congr hx xs

/-- A reporter with another verbosity. -/
def atVerbosity (r : Reporter) (v : Int) : Reporter :=
  { r with options := { r.options with verbosity := v } }

/-- A report is prepared alike at all verbosities. -/
lemma open_verbosity (o : Options) (v : Int) (ls : List Language) :
    Reporter.open s { o with verbosity := v } ls
      = ((Reporter.open s o ls).1, (Reporter.open s o ls).2.map (·.atVerbosity v)) :=
  open_map s (fun o => { o with verbosity := v }) rfl ls

/-- **Rows are collected alike** at all verbosities. -/
lemma collectFrom_atVerbosity (h : c ≤ c') (r : Reporter) (files : List SourceFile) :
    ((r.atVerbosity c).collectFrom s files).1.seenAt c
        = ((r.atVerbosity c').collectFrom s files).1.seenAt c
      ∧ ((r.atVerbosity c).collectFrom s files).2.2 = ((r.atVerbosity c').collectFrom s files).2.2 := by
  obtain ⟨hseen, hxs⟩ := dispatchAll_verbosity s h files r.extractors
  simp only [collectFrom, atVerbosity, rowsOfAll_verbosity, Trace.seenAt_append, ← hxs]
  exact ⟨by rw [hseen], trivial⟩

/-- A run of a reporter is the same at all verbosities. -/
lemma run_atVerbosity (h : c ≤ c') (r : Reporter) :
    ((r.atVerbosity c).run s).1.seenAt c = ((r.atVerbosity c').run s).1.seenAt c
      ∧ ((r.atVerbosity c).run s).2.2 = ((r.atVerbosity c').run s).2.2 := by
  have hnarrowed : ∀ v, narrowed (r.atVerbosity v).options (r.atVerbosity v).filter
      = narrowed r.options r.filter := fun _ => rfl
  have hroot : ∀ v, (r.atVerbosity v).options.root = r.options.root := fun _ => rfl
  simp only [run, collect, hnarrowed, hroot]
  split
  · exact ⟨rfl, rfl⟩
  · obtain ⟨hseen, hrows⟩ := collectFrom_atVerbosity s h { r with filter := narrowed r.options r.filter }
      (discover (narrowed r.options r.filter) (s.listing r.options.root))
    refine ⟨?_, ?_⟩
    · simp only [Trace.seenAt_append]
      exact congrArg _ hseen
    · exact congrArg (Except.map (shown r.options)) hrows

end Reporter

namespace Surroundings

variable {c c' : Int}

/-- **A report is the same at all verbosities.**  The same programs are called, the same progress messages are
sent, and the pool gets the same batches; the rows are the same, or the failure.  The records that are shown with
some `-V` are those of the report with more of them that are important enough. -/
theorem report_verbosity (s : Surroundings) (o : Options) (h : c ≤ c') :
    (s.report { o with verbosity := c }).1.seenAt c = (s.report { o with verbosity := c' }).1.seenAt c
      ∧ (s.report { o with verbosity := c }).2 = (s.report { o with verbosity := c' }).2 := by
  rw [report, report, Reporter.open_verbosity s o c, Reporter.open_verbosity s o c']
  rcases Reporter.open s o Language.searched with ⟨t, e | r⟩
  · exact ⟨rfl, rfl⟩
  · obtain ⟨hseen, hrows⟩ := Reporter.run_atVerbosity s h r
    refine ⟨?_, hrows⟩
    show (t ++ ((r.atVerbosity c).run s).1).seenAt c = (t ++ ((r.atVerbosity c').run s).1).seenAt c
    rw [Trace.seenAt_append, Trace.seenAt_append, hseen]

end Surroundings

namespace Journal

/-- **More `-V` add lines** to the error stream, and take none away. -/
lemma lines_sublist {c c' : Int} (h : c ≤ c') (rs : List Record) : (lines c rs).Sublist (lines c' rs) := by
  refine (List.monotone_filter_right rs fun r hr => ?_).map Record.streamLine
  exact decide_eq_true ((Level.ofCount_antitone h).trans (of_decide_eq_true hr))

end Journal

end FunctionChurn
