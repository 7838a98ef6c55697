import FunctionChurn.Discovery
import FunctionChurn.Proofs.Sorting
import Mathlib.Data.List.Sort

/-!
# What discovery gives

Discovery tests paths, tells their languages, and sorts.  None of the three looks at more than one
path, apart from the sort, and that keeps whatever is left out apart.

* `mem_discover` says which files are found, `nodup_discover` that none is found twice.
* **`discover_eq_filter`**: narrowing a search is leaving out files of the full one.  This is what lets
  two searches that differ in their filters be compared.
-/

namespace FunctionChurn

/-! ## The order of files -/

/-- Paths can be compared. -/
lemma path_trans (a b c : SourceFile) :
    decide (a.path ≤ b.path) → decide (b.path ≤ c.path) → decide (a.path ≤ c.path) := by
  simp only [decide_eq_true_eq]
  exact String.le_trans

/-- Of two files one comes first. -/
lemma path_total (a b : SourceFile) : decide (a.path ≤ b.path) || decide (b.path ≤ a.path) := by
  simp only [Bool.or_eq_true, decide_eq_true_eq]
  exact String.le_total _ _

/-- Files that are listed in order need no sorting. -/
lemma discover_of_pairwise {f : Filter} {paths : List String}
    (h : (paths.filterMap f.classify).Pairwise fun a b => a.path ≤ b.path) :
    discover f paths = paths.filterMap f.classify :=
  List.mergeSort_of_pairwise (h.imp fun hab => decide_eq_true hab)

/-! ## What is found -/

namespace Filter

/-- A search that is narrowed to nothing in particular. -/
@[simp] theorem admits_empty (path : String) : ({} : Filter).admits path = true := rfl

@[simp] theorem excludes_empty (path : String) : ({} : Filter).excludes path = false := rfl

/-- **What becomes of a path**: if it is kept, the file at it, in the language of the path. -/
theorem classify_eq_some {f : Filter} {path : String} {x : SourceFile} :
    f.classify path = some x ↔ f.keeps path ∧ x = ⟨path, Language.ofPath path⟩ := by
  unfold classify
  by_cases h : f.keeps path
  · simp only [h, if_true, Option.some.injEq, true_and]
    exact eq_comm
  · simp [h]

/-- **Only the prefixes and texts themselves matter**, not how often and in which order they are known. -/
lemma classify_congr {f g : Filter} (hprefixes : ∀ t, t ∈ f.prefixes ↔ t ∈ g.prefixes)
    (hexcluded : ∀ t, t ∈ f.excluded ↔ t ∈ g.excluded) : f.classify = g.classify := by
  have hany : ∀ {ts us : List String}, (∀ t, t ∈ ts ↔ t ∈ us) → ∀ p : String → Bool, ts.any p = us.any p :=
    fun h p => Bool.eq_iff_iff.mpr (by simp only [List.any_eq_true, h])
  have hempty : f.prefixes.isEmpty = g.prefixes.isEmpty :=
    Bool.eq_iff_iff.mpr (by simp only [List.isEmpty_iff, List.eq_nil_iff_forall_not_mem, hprefixes])
  funext path
  rw [classify, classify, keeps, keeps, admits, admits, excludes, excludes, hempty, hany hprefixes,
    hany hexcluded]

/-- A narrowed test on a path is the general one and a test of the file that it gives. -/
lemma classify_eq_filter (f : Filter) (path : String) :
    f.classify path
      = (({} : Filter).classify path).filter fun x => f.admits x.path && !f.excludes x.path := by
  unfold classify keeps
  cases isHidden path with
  | true => rfl
  | false =>
      rw [admits_empty, excludes_empty]
      rfl

end Filter

/-- **The files that are found**: those at paths that are kept, in the languages of the paths. -/
theorem mem_discover {f : Filter} {paths : List String} {x : SourceFile} :
    x ∈ discover f paths ↔ x.path ∈ paths ∧ f.keeps x.path ∧ x.language = Language.ofPath x.path := by
  rw [discover, List.mem_mergeSort, List.mem_filterMap]
  constructor
  · rintro ⟨path, hpath, hx⟩
    obtain ⟨hkept, hx⟩ := Filter.classify_eq_some.mp hx
    simp only [hx, hpath, hkept, and_self]
  · rintro ⟨hpath, hkept, hlang⟩
    refine ⟨x.path, hpath, Filter.classify_eq_some.mpr ⟨hkept, ?_⟩⟩
    rw [← hlang]

/-- No file is found twice. -/
theorem nodup_discover {f : Filter} {paths : List String} (h : paths.Nodup) :
    (discover f paths).Nodup := by
  refine List.nodup_mergeSort.mpr (h.filterMap ?_)
  intro path path' x hx hx'
  have hpath := (Filter.classify_eq_some.mp hx).2
  have hpath' := (Filter.classify_eq_some.mp hx').2
  exact congrArg SourceFile.path (hpath.symm.trans hpath')

/-- **Narrowing a search** is leaving out files of the full one. -/
theorem discover_eq_filter (f : Filter) (paths : List String) :
    discover f paths
      = (discover {} paths).filter fun x => f.admits x.path && !f.excludes x.path := by
  have hclassify : f.classify = fun path =>
      (({} : Filter).classify path).filter fun x => f.admits x.path && !f.excludes x.path :=
    funext f.classify_eq_filter
  rw [discover, discover, filter_mergeSort path_trans path_total, List.filter_filterMap, hclassify]

end FunctionChurn
