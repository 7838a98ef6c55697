import FunctionChurn.Report.Row
import Mathlib.Data.List.Basic
import Mathlib.Tactic.Common

/-!
# Sorting that keeps ties in their order

A report is sorted twice: its files by their paths, and its rows by how often the functions changed.
Both times items may be left out before the sort or after it, and it must not matter when.

* `filter_mergeSort_of_pairwise`: items that are in order already, such as those that are tied with
  each other, keep their order.
* `eq_of_filter_tied`: a sorted list is determined by the order of the items that are tied.
* **`filter_mergeSort`**: leaving items out and sorting can be exchanged.
* **`IsRanking`** says what a ranking is, `ranked_isRanking` and `IsRanking.unique` that `ranked` gives
  the only one.
-/

namespace FunctionChurn

/-! ## Sorted lists -/

section

variable {α : Type} {le : α → α → Bool}

/-- Whether neither of two items has to stand before the other. -/
def tied (le : α → α → Bool) (a b : α) : Bool := le a b && le b a

/-- **Items that are in order keep their order.** -/
lemma filter_mergeSort_of_pairwise (trans : ∀ a b c, le a b → le b c → le a c)
    (total : ∀ a b, le a b || le b a) {p : α → Bool} {l : List α}
    (h : (l.filter p).Pairwise fun a b => le a b) :
    (l.mergeSort le).filter p = l.filter p := by
  have hsub : (l.filter p).Sublist (l.mergeSort le) :=
    List.sublist_mergeSort trans total h List.filter_sublist
  have hkept := hsub.filter p
  rw [List.filter_filter] at hkept
  simp only [Bool.and_self] at hkept
  exact (hkept.eq_of_length ((List.mergeSort_perm l le).filter p).length_eq.symm).symm

/-- The items that are tied with one are in order. -/
lemma pairwise_filter_tied (trans : ∀ a b c, le a b → le b c → le a c) (a : α) (l : List α) :
    (l.filter (tied le a)).Pairwise fun x y => le x y := by
  refine (List.pairwise_filter.mpr (List.pairwise_of_forall fun x y hx hy => ?_))
  simp only [tied, Bool.and_eq_true] at hx hy
  exact trans x a y hx.2 hy.1

/-- An item is among those that are tied with it. -/
lemma mem_filter_tied (total : ∀ a b, le a b || le b a) {a : α} {l : List α} (h : a ∈ l) :
    a ∈ l.filter (tied le a) :=
  List.mem_filter.mpr ⟨h, by simpa [tied] using total a a⟩

/-- The first item of a sorted list comes before all of its items. -/
lemma head_le (total : ∀ a b, le a b || le b a) {a b : α} {l : List α}
    (hl : (a :: l).Pairwise fun x y => le x y) (hb : b ∈ a :: l) : le a b := by
  rcases List.mem_cons.mp hb with rfl | hb
  · simpa using total b b
  · exact (List.pairwise_cons.mp hl).1 b hb

/-- **A sorted list is determined by the order of tied items.** -/
theorem eq_of_filter_tied (total : ∀ a b, le a b || le b a) :
    ∀ {l m : List α}, l.Pairwise (fun a b => le a b) → m.Pairwise (fun a b => le a b) →
      (∀ a, l.filter (tied le a) = m.filter (tied le a)) → l = m
  | [], [], _, _, _ => rfl
  | [], b :: m, _, _, h => by
      have hb : b ∈ (b :: m).filter (tied le b) := mem_filter_tied total List.mem_cons_self
      rw [← h b] at hb
      simp at hb
  | a :: l, [], _, _, h => by
      have ha : a ∈ (a :: l).filter (tied le a) := mem_filter_tied total List.mem_cons_self
      rw [h a] at ha
      simp at ha
  | a :: l, b :: m, hl, hm, h => by
      -- each of the two heads occurs in the other list, so they are tied
      have hb : b ∈ (a :: l).filter (tied le b) := by
        rw [h b]
        exact mem_filter_tied total List.mem_cons_self
      have ha : a ∈ (b :: m).filter (tied le a) := by
        rw [← h a]
        exact mem_filter_tied total List.mem_cons_self
      have hab : le a b := head_le total hl (List.mem_filter.mp hb).1
      have hba : le b a := head_le total hm (List.mem_filter.mp ha).1
      have haa : le a a := head_le total hl List.mem_cons_self
      have hhead := h a
      rw [List.filter_cons_of_pos (by simp [tied, haa]),
        List.filter_cons_of_pos (by simp [tied, hab, hba])] at hhead
      obtain rfl := (List.cons.inj hhead).1
      have htail : ∀ x, l.filter (tied le x) = m.filter (tied le x) := by
        intro x
        have hx := h x
        by_cases hxa : tied le x a
        · rw [List.filter_cons_of_pos hxa, List.filter_cons_of_pos hxa] at hx
          exact (List.cons.inj hx).2
        · rwa [List.filter_cons_of_neg hxa, List.filter_cons_of_neg hxa] at hx
      rw [eq_of_filter_tied total hl.of_cons hm.of_cons htail]

/-- **Leaving items out and sorting can be exchanged.** -/
theorem filter_mergeSort (trans : ∀ a b c, le a b → le b c → le a c)
    (total : ∀ a b, le a b || le b a) (p : α → Bool) (l : List α) :
    (l.mergeSort le).filter p = (l.filter p).mergeSort le := by
  refine eq_of_filter_tied total ((List.pairwise_mergeSort trans total l).filter p)
    (List.pairwise_mergeSort trans total _) fun a => ?_
  rw [filter_mergeSort_of_pairwise trans total (pairwise_filter_tied trans a _),
    List.filter_filter, List.filter_filter]
  have hswap : (fun x => tied le a x && p x) = fun x => p x && tied le a x :=
    funext fun x => Bool.and_comm _ _
  rw [hswap, ← List.filter_filter,
    filter_mergeSort_of_pairwise trans total (pairwise_filter_tied trans a l), List.filter_filter]

end

/-! ## Rankings -/

/-- **What a ranking of some rows is**: the same rows, most often changed first, those that changed
equally often in their order. -/
structure IsRanking (rows ranking : List Row) : Prop where
  perm : ranking.Perm rows
  falling : ranking.Pairwise fun a b => b.freq ≤ a.freq
  ties : ∀ k, ranking.filter (fun row => row.freq = k) = rows.filter (fun row => row.freq = k)

/-- How often functions changed can be compared. -/
lemma freq_trans (a b c : Row) :
    decide (b.freq ≤ a.freq) → decide (c.freq ≤ b.freq) → decide (c.freq ≤ a.freq) := by
  simp only [decide_eq_true_eq]
  omega

/-- Of two rows one changed at least as often as the other. -/
lemma freq_total (a b : Row) : decide (b.freq ≤ a.freq) || decide (a.freq ≤ b.freq) := by
  simp only [Bool.or_eq_true, decide_eq_true_eq]
  omega

/-- **Ranked rows are a ranking.** -/
theorem ranked_isRanking (rows : List Row) : IsRanking rows (ranked rows) where
  perm := List.mergeSort_perm _ _
  falling := by
    have h : (ranked rows).Pairwise _ := List.pairwise_mergeSort freq_trans freq_total rows
    exact h.imp fun hab => of_decide_eq_true hab
  ties k := by
    refine filter_mergeSort_of_pairwise freq_trans freq_total ?_
    refine List.pairwise_filter.mpr (List.pairwise_of_forall fun a b ha hb => ?_)
    simp only [decide_eq_true_eq] at ha hb ⊢
    omega

/-- **There is one ranking only.** -/
theorem IsRanking.unique {rows r r' : List Row} (h : IsRanking rows r) (h' : IsRanking rows r') :
    r = r' := by
  have hfalling : ∀ {l : List Row}, (l.Pairwise fun a b => b.freq ≤ a.freq) →
      l.Pairwise fun a b => decide (b.freq ≤ a.freq) = true := by
    intro l hl
    simpa only [decide_eq_true_eq] using hl
  refine eq_of_filter_tied freq_total (hfalling h.falling) (hfalling h'.falling) fun a => ?_
  have htied : tied (fun a b : Row => decide (b.freq ≤ a.freq)) a
      = fun b => decide (b.freq = a.freq) := by
    funext b
    simp only [tied, ← Bool.decide_and]
    congr 1
    exact propext ⟨fun h => by omega, fun h => by omega⟩
  rw [htied, h.ties, h'.ties]

/-- **Leaving rows out and ranking can be exchanged.** -/
theorem filter_ranked (p : Row → Bool) (rows : List Row) :
    (ranked rows).filter p = ranked (rows.filter p) :=
  filter_mergeSort freq_trans freq_total p rows

/-- Ranking loses no row. -/
@[simp] theorem length_ranked (rows : List Row) : (ranked rows).length = rows.length :=
  List.length_mergeSort rows

end FunctionChurn
