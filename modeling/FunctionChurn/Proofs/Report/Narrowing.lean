import FunctionChurn.Proofs.Report.Ranking

/-!
# Narrowing a report is leaving out rows

A report can be narrowed by the beginnings of paths, by texts in paths, and by texts in names.  The
first two act before a file is opened, the third after receivers were folded, and yet all of them come
to the same as crossing out rows of the full report.

* `Options.unfiltered` are the same choices without any narrowing, `Options.admits` is the test of a row.
* `Surroundings.discovered_eq_filter`, `Surroundings.sitesIn_unfiltered`: what the narrowing does to the
  files and to the sites of one file.
* **`Surroundings.narrowed_report`** compares the two reports.
-/

namespace FunctionChurn

namespace Options

/-- The same choices without any narrowing. -/
def unfiltered (o : Options) : Options :=
  { o with prefixes := [], invertMatch := [], excludeFunc := [] }

/-- Whether a path is wanted: it begins with one of the prefixes behind the root, if there are any, and
holds none of the unwanted texts. -/
def admitsPath (o : Options) (path : String) : Bool :=
  (o.prefixes.isEmpty || o.prefixes.any fun p => Text.startsWith path (Path.join o.root p))
    && !o.invertMatch.any (Text.contains path)

/-- **Whether a row is wanted**: its path is, and its name holds none of the terms. -/
def admits (o : Options) (row : Row) : Bool := o.admitsPath row.file && !o.drops row.name

end Options

namespace Surroundings

variable (s : Surroundings) (o : Options)

/-! ## Fewer files, and fewer functions in a file -/

/-- **A narrowed report discovers the wanted files** of the full one. -/
lemma discovered_eq_filter :
    s.discovered o = (s.discovered o.unfiltered).filter fun f => o.admitsPath f.path := by
  have hfull : s.discovered o.unfiltered = discover {} (s.listing o.root) := rfl
  have htest : ∀ path : String, ((Reporter.narrowed o {}).admits path
      && !(Reporter.narrowed o {}).excludes path) = o.admitsPath path := by
    intro path
    simp [Reporter.narrowed, Filter.admits, Filter.excludes, Options.admitsPath, List.any_map,
      Function.comp_def]
  rw [hfull, discovered, discover_eq_filter]
  simp only [htest]

/-- The wanted sites of a file are those that a narrowed report has in it. -/
lemma sitesIn_unfiltered (f : SourceFile) :
    (s.sitesIn o.unfiltered f).filter (fun p => o.admits (s.rowAt o p))
      = if o.admitsPath f.path then s.sitesIn o f else [] := by
  have hnone : ∀ name, o.unfiltered.drops name = false := fun _ => rfl
  have hrow : (fun p => o.admits (s.rowAt o p)) ∘ Site.mk f
      = fun d => o.admitsPath f.path && !o.drops d.shown := rfl
  rw [sitesIn, List.filter_map, hrow]
  simp only [hnone, Bool.not_false, List.filter_true]
  cases o.admitsPath f.path with
  | true => simp [sitesIn]
  | false => simp

/-- **The sites of a narrowed report** are the wanted ones of the full report. -/
theorem sites_unfiltered :
    s.sites o = (s.sites o.unfiltered).filter fun p => o.admits (s.rowAt o p) := by
  refine sites_eq_filter _ (fun _ => true) (s.discovered_eq_filter o) ?_ ?_
  · intro l
    rw [Bool.and_true]
  · intro f
    rw [s.sitesIn_unfiltered o f, Bool.and_true]

/-! ## The two reports -/

/-- A window that is long enough shows the whole ranking. -/
lemma window_ranked {rows : List Row} {n : Nat} (h : rows.length ≤ n) :
    window 0 n (ranked rows) = ranked rows := by
  have hwindow := window_nonneg 0 n (ranked rows)
  rwa [List.drop_zero, List.take_of_length_le (by rwa [length_ranked])] at hwindow

variable {s o}

/-- The rows of a narrowed report are the wanted ones of the full report. -/
lemma collected_narrowed {rows : List Row} (h : (s.collected o.unfiltered).2 = .ok rows)
    (hfiles : s.discovered o ≠ []) : (s.collected o).2 = .ok (rows.filter o.admits) := by
  obtain ⟨hready, -, hanswers, hrows⟩ := (s.collected_eq_ok_iff o.unfiltered rows).mp h
  refine (s.collected_eq_ok_iff o _).mpr ⟨hready, hfiles, ?_, ?_⟩
  · intro p hp
    rw [sites_unfiltered] at hp
    exact hanswers p (List.mem_filter.mp hp).1
  · have hrow : s.rowAt o.unfiltered = s.rowAt o := rfl
    rw [hrows, hrow, s.sites_unfiltered o, List.filter_map]
    rfl

/-- **Narrowing a report is leaving out rows.**  When there is a full report, and some file is wanted,
then there is a narrowed report too.  Its rows are the wanted rows of the full report, and its whole
ranking is the whole ranking of the full report without the rows that are not wanted. -/
theorem narrowed_report {rows : List Row} (h : (s.collected o.unfiltered).2 = .ok rows)
    (hfiles : s.discovered o ≠ []) :
    (s.collected o).2 = .ok (rows.filter o.admits)
    ∧ ∀ n m : Nat, rows.length ≤ n → (rows.filter o.admits).length ≤ m →
      ∃ ranking, (s.report (o.unfiltered.page 0 n)).2 = .ok ranking
        ∧ (s.report (o.page 0 m)).2 = .ok (ranking.filter o.admits) := by
  have hkept := collected_narrowed h hfiles
  refine ⟨hkept, fun n m hn hm => ⟨ranked rows, ?_, ?_⟩⟩
  · rw [report_page, h, Except.map, window_ranked hn]
  · rw [report_page, hkept, Except.map, window_ranked hm, filter_ranked]

end Surroundings

/-- Choices that narrow the report of the small tree in all three ways. -/
def Sample.narrow : Options :=
  { prefixes := ["a.rs", "c", "d"], invertMatch := ["/d"], excludeFunc := ["one"] }

/-- Of the ranking of the small tree two rows are left. -/
theorem Surroundings.narrowed_report_tree :
    (Sample.tree.report (Sample.narrow.page 0 2)).2
      = .ok [⟨"./a.rs", 2, "two", 2⟩, ⟨"./c.lua", 1, "five", 2⟩] := by
  have hfiles : Sample.tree.discovered Sample.narrow ≠ [] := by
    have hfull : Sample.tree.discovered Sample.narrow.unfiltered = Sample.files :=
      Sample.discovered_tree
    rw [discovered_eq_filter, hfull]
    decide +kernel
  have h : (Sample.tree.collected Sample.narrow.unfiltered).2 = .ok Sample.rows :=
    Sample.collected_tree
  obtain ⟨ranking, hfull, hnarrow⟩ :=
    (narrowed_report h hfiles).2 7 2 (by decide) (by decide +kernel)
  have hranking : ranking = Sample.ranking := by
    rw [report_page, h, Except.map, Sample.ranked_rows] at hfull
    exact (Except.ok.inj hfull).symm
  rw [hranking] at hnarrow
  refine hnarrow.trans (congrArg _ ?_)
  decide +kernel

end FunctionChurn
