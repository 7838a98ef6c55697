import FunctionChurn.Proofs.Report.Sites
import FunctionChurn.Proofs.Sorting

/-!
# The ranking and its pages

A report shows a window on its ranking.  The rows are collected and ranked before anybody looks at the
window, so windows that follow each other are cut from the same list.

* `Options.page` and `Reporter.page` choose another window and leave everything else.
* `Reporter.collect_page`: the rows that are collected do not depend on the window.
* `Surroundings.report_page`: what a page of a report from the start is.
* **`Reporter.pages`**: the ranking behind a report, and its pages, for any reporter.
-/

namespace FunctionChurn

/-- The choices with another window. -/
def Options.page (o : Options) (skip total : Int) : Options :=
  { o with skip := skip, total := total }

namespace Reporter

/-- A reporter with another window. -/
def page (r : Reporter) (skip total : Int) : Reporter :=
  { r with options := r.options.page skip total }

/-! ## The rows do not depend on the window -/

lemma rowsOfAll_page (s : Surroundings) (o : Options) (skip total : Int) (xs : List Extractor) :
    rowsOfAll s (o.page skip total) xs = rowsOfAll s o xs := by
  have hx : ∀ x, rowsOf s (o.page skip total) x = rowsOf s o x := fun _ => rfl
  exact rowsOfAll_congr hx xs

/-- **The rows that are collected do not depend on the window.** -/
theorem collect_page (s : Surroundings) (r : Reporter) (skip total : Int) :
    ((r.page skip total).collect s).2.2 = (r.collect s).2.2 := by
  have hfiles : discover (narrowed (r.page skip total).options (r.page skip total).filter)
      (s.listing (r.page skip total).options.root)
        = discover (narrowed r.options r.filter) (s.listing r.options.root) := rfl
  simp only [collect, hfiles]
  split
  · rfl
  · simp only [collectFrom, page, rowsOfAll_page]
    rfl

/-- **A page** is a window on the ranking of the rows. -/
theorem run_page (s : Surroundings) (r : Reporter) (skip total : Int) :
    ((r.page skip total).run s).2.2
      = (r.collect s).2.2.map fun rows => window skip total (ranked rows) := by
  rw [← collect_page s r skip total]
  rfl

end Reporter

/-! ## Reports from the start -/

/-- A report from the start collects what the prepared reporter collects. -/
lemma Surroundings.collected_of_open {s : Surroundings} {o : Options} {r : Reporter}
    (h : (Reporter.open s o Language.searched).2 = .ok r) :
    (s.collected o).2 = (r.collect s).2.2 := by
  rw [Surroundings.collected]
  split
  · next hopen => simp [hopen] at h
  · next hopen =>
      rw [hopen] at h
      rw [Except.ok.inj h]

/-- **A page of a report from the start** is a window on the ranking of its rows. -/
theorem Surroundings.report_page (s : Surroundings) (o : Options) (skip total : Int) :
    (s.report (o.page skip total)).2
      = (s.collected o).2.map fun rows => window skip total (ranked rows) := by
  have hopen : Reporter.open s (o.page skip total) Language.searched
      = ((Reporter.open s o Language.searched).1,
          (Reporter.open s o Language.searched).2.map (·.page skip total)) :=
    Reporter.open_map s (·.page skip total) rfl Language.searched
  rw [Surroundings.report, Surroundings.collected, hopen]
  rcases Reporter.open s o Language.searched with ⟨t, e | r⟩
  · rfl
  · exact r.run_page s skip total

/-! ## Pages -/

/-- **The ranking behind a report, and its pages.**  When a reporter collects rows, then these have
exactly one ranking, and

1. each page shows the stretch of the ranking that it names, whatever lies beyond its end;
2. two pages that follow each other are one longer page;
3. if the reporter was prepared from the start, rows that changed equally often stand in the order of
   their sites: by language, then by file as discovered, then by place in the file. -/
theorem Reporter.pages {s : Surroundings} {r : Reporter} {rows : List Row}
    (h : (r.collect s).2.2 = .ok rows) :
    ∃ ranking, IsRanking rows ranking ∧ (∀ other, IsRanking rows other → other = ranking)
      ∧ (∀ skip total : Nat,
          ((r.page skip total).run s).2.2 = .ok ((ranking.drop skip).take total))
      ∧ (∀ skip a b : Nat, ∃ front back,
          ((r.page skip a).run s).2.2 = .ok front
          ∧ ((r.page (skip + a : Nat) b).run s).2.2 = .ok back
          ∧ ((r.page skip (a + b : Nat)).run s).2.2 = .ok (front ++ back))
      ∧ ∀ o, (Reporter.open s o Language.searched).2 = .ok r → ∀ k : Int,
          ranking.filter (fun row => row.freq = k)
            = ((s.sites o).filter fun p => (s.rowAt o p).freq = k).map (s.rowAt o) := by
  have hpage : ∀ skip total : Nat,
      ((r.page skip total).run s).2.2 = .ok (((ranked rows).drop skip).take total) := by
    intro skip total
    rw [run_page, h, Except.map, window_nonneg]
  refine ⟨ranked rows, ranked_isRanking rows, fun other hother => ?_, hpage, ?_, ?_⟩
  · exact hother.unique (ranked_isRanking rows)
  · intro skip a b
    refine ⟨_, _, hpage skip a, hpage (skip + a) b, ?_⟩
    rw [hpage, List.take_add, List.drop_drop]
  · intro o hopen k
    have hrows : (s.collected o).2 = .ok rows := (Surroundings.collected_of_open hopen).trans h
    obtain ⟨-, -, -, heq⟩ := (s.collected_eq_ok_iff o rows).mp hrows
    rw [(ranked_isRanking rows).ties, heq, List.filter_map]
    rfl

namespace Sample

/-- The ranking of the rows of the small tree.  Two of the ties are between languages. -/
def ranking : List Row :=
  [⟨"./a.rs", 2, "two", 2⟩, ⟨"./c.lua", 1, "five", 2⟩, ⟨"./b.go", 3, "(*T) three", 1⟩,
    ⟨"./b.go", 4, "four", 0⟩, ⟨"./a.rs", 1, "one", 0⟩, ⟨"./d.rs", 1, "six", 0⟩,
    ⟨"./e.rs", 1, "seven", 0⟩]

lemma ranked_rows : ranked rows = ranking := by
  refine (ranked_isRanking rows).unique ⟨?_, ?_, fun k => ?_⟩
  · decide +kernel
  · decide +kernel
  · simp only [rows, ranking, List.filter_cons, List.filter_nil]
    by_cases hnone : k = 0
    · subst hnone
      rfl
    · by_cases hone : k = 1
      · subst hone
        rfl
      · simp [Ne.symm hnone, Ne.symm hone]

/-- **A reporter for the small tree**, fresh from its preparation. -/
def reporter : Reporter :=
  { options := {}, extractors := Language.searched.map fun l => { language := l } }

lemma open_reporter : (Reporter.open tree {} Language.searched).2 = .ok reporter := by
  rw [Reporter.open_eq ready_tree]
  rfl

end Sample

/-- The first two rows of the small tree changed equally often, and come in the order of their
languages also when the first page ends between them. -/
theorem Reporter.pages_reporter : ∃ front back,
    ((Sample.reporter.page 0 1).run Sample.tree).2.2 = .ok front
    ∧ ((Sample.reporter.page 1 2).run Sample.tree).2.2 = .ok back
    ∧ front = [⟨"./a.rs", 2, "two", 2⟩]
    ∧ back = [⟨"./c.lua", 1, "five", 2⟩, ⟨"./b.go", 3, "(*T) three", 1⟩] := by
  have h : (Sample.reporter.collect Sample.tree).2.2 = .ok Sample.rows :=
    (Surroundings.collected_of_open Sample.open_reporter).symm.trans Sample.collected_tree
  obtain ⟨ranking, -, hunique, hpage, -, -⟩ := Reporter.pages h
  have hranking : ranking = Sample.ranking :=
    (hunique _ (ranked_isRanking Sample.rows)).symm.trans Sample.ranked_rows
  rw [hranking] at hpage
  exact ⟨_, _, hpage 0 1, hpage 1 2, rfl, rfl⟩

end FunctionChurn
