/-!
# Rows of a report, their ranking, and the window that is shown

A report lists functions with the number of commits that touched them, most often changed first.

* `Row` is one line of a report.
* `ranked` sorts rows by how often the functions changed, rows that changed equally often staying in
  their order.
* `window` is the part of a list that is shown.

A window can be given with negative ends, which are then counted from the back of the list.
-/

namespace FunctionChurn

/-- **One line of a report.** -/
structure Row where
  file : String
  line : Int
  name : String
  freq : Int
  deriving DecidableEq, Repr

/-- **Rows by how often their functions changed**, most often first. -/
def ranked (rows : List Row) : List Row := rows.mergeSort fun a b => b.freq ≤ a.freq

/-- A position in a list of so many items: one below zero is counted from the back, and one beyond
an end is that end. -/
def position (length : Nat) (i : Int) : Nat :=
  if i < 0 then (length + i).toNat else min length i.toNat

/-- **The items from `start` on**, up to the position `start + size`. -/
def window {α : Type} (start size : Int) (items : List α) : List α :=
  let first := position items.length start
  let last := position items.length (start + size)
  (items.take last).drop first

/-- A window with no negative end skips some items and takes some. -/
theorem window_nonneg {α : Type} (s n : Nat) (items : List α) :
    window s n items = (items.drop s).take n := by
  have hs : ¬ ((s : Int) < 0) := by omega
  have hn : ¬ ((s : Int) + n < 0) := by omega
  simp only [window, position, hs, hn, if_false]
  have h₁ : ((s : Int)).toNat = s := by omega
  have h₂ : ((s : Int) + n).toNat = s + n := by omega
  rw [h₁, h₂, List.take_eq_take_min, List.drop_take]
  by_cases h : s ≤ items.length
  · rw [Nat.min_eq_right h]
    by_cases h' : s + n ≤ items.length
    · rw [Nat.min_eq_right h', Nat.min_eq_left h']
      simp
    · have h'' : items.length ≤ s + n := by omega
      rw [Nat.min_eq_left h'', Nat.min_self, List.take_of_length_le (by simp),
        List.take_of_length_le (by simp; omega)]
  · have hs' : items.length ≤ s := by omega
    rw [Nat.min_eq_left hs', List.drop_eq_nil_of_le hs', List.drop_eq_nil_of_le (Nat.le_refl _)]
    simp

end FunctionChurn
