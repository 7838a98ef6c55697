import FunctionChurn.Settings.Basic
import Mathlib.Data.List.GetD
import Mathlib.Tactic.Common

/-!
# Settings whose lists can be changed

Settings are laid over each other as values.  Where lists are kept in a memory and can be changed
there, more than one object may lead to the same list, and then it matters which lists are made anew.
Here `merge` is carried out in such a memory: it puts every list of the outcome into a cell of its own.

* `Settings.Held` are settings that hold addresses of lists, `Held.view` the settings seen in a memory.
* `Held.merge` is the merging in a memory.
* **`Held.view_merge`**: what is seen afterwards is what `Settings.merge` gives.
* **`Held.view_write_merge`**: the settings that overrides were laid on are as before, and stay so whatever
  is written to the lists of the outcome.
-/

namespace FunctionChurn

/-- **A memory**: the list at each address. -/
structure Memory where
  cells : List (List String)

namespace Memory

/-- The list at an address. -/
def read (m : Memory) (address : Nat) : List String := m.cells.getD address []

/-- The address of the next new cell. -/
def next (m : Memory) : Nat := m.cells.length

/-- The memory with a list in a new cell. -/
def store (m : Memory) (items : List String) : Memory := ⟨m.cells ++ [items]⟩

/-- The memory with another list at an address. -/
def write (m : Memory) (address : Nat) (items : List String) : Memory :=
  ⟨m.cells.set address items⟩

variable {m : Memory} {a b : Nat} {items : List String}

@[simp] lemma next_store : (m.store items).next = m.next + 1 := List.length_append

/-- A new cell leaves the others as they were. -/
lemma read_store (h : a < m.next) : (m.store items).read a = m.read a :=
  List.getD_append _ _ _ _ h

/-- The new cell has the list. -/
lemma read_store_next : (m.store items).read m.next = items := by
  rw [read, store, next, List.getD_append_right _ _ _ _ (Nat.le_refl _), Nat.sub_self]
  rfl

/-- A list written to one cell leaves the others as they were. -/
lemma read_write (h : a ≠ b) : (m.write b items).read a = m.read a := by
  rw [read, read, write, List.getD_eq_getElem?_getD, List.getD_eq_getElem?_getD,
    List.getElem?_set_ne (Ne.symm h)]

end Memory

namespace Settings

/-- **Settings that hold addresses of lists.** -/
structure Held where
  root : String
  total : Int
  skip : Int
  prefixes : Nat
  invertMatch : Nat
  excludeFunc : Nat
  git : String
  workers : Option Int

namespace Held

/-- The addresses of the lists. -/
def lists (h : Held) : List Nat := [h.prefixes, h.invertMatch, h.excludeFunc]

/-- Whether the lists are in a memory. -/
def IsIn (h : Held) (m : Memory) : Prop := ∀ a ∈ h.lists, a < m.next

/-- **The settings that are seen in a memory.** -/
def view (h : Held) (m : Memory) : Settings where
  root := h.root
  total := h.total
  skip := h.skip
  prefixes := m.read h.prefixes
  invertMatch := m.read h.invertMatch
  excludeFunc := m.read h.excludeFunc
  git := h.git
  workers := h.workers

/-- **Overrides laid on top of settings in a memory.**  Every list of the outcome is in a new cell. -/
def merge (h : Held) (o : Overrides) (m : Memory) : Held × Memory :=
  let m₁ := m.store (m.read h.prefixes ++ o.prefixes)
  let m₂ := m₁.store (m₁.read h.invertMatch ++ o.invertMatch)
  let m₃ := m₂.store (m₂.read h.excludeFunc ++ o.excludeFunc)
  ({ h with
      total := o.total.getD h.total
      skip := o.skip.getD h.skip
      prefixes := m.next
      invertMatch := m₁.next
      excludeFunc := m₂.next }, m₃)

variable {h : Held} {m m' : Memory}

/-- Only the lists of settings matter to what is seen. -/
lemma view_congr (same : ∀ a ∈ h.lists, m'.read a = m.read a) : h.view m' = h.view m := by
  simp only [lists, List.forall_mem_cons] at same
  obtain ⟨hprefixes, hinvert, hexclude, -⟩ := same
  rw [view, view, hprefixes, hinvert, hexclude]

/-- What was in memory before the merging is as before. -/
lemma read_merge (o : Overrides) {a : Nat} (ha : a < m.next) :
    (h.merge o m).2.read a = m.read a := by
  have hone : a < m.next + 1 := Nat.lt_succ_of_lt ha
  have htwo : a < m.next + 1 + 1 := Nat.lt_succ_of_lt hone
  rw [merge, Memory.read_store (by simpa using htwo), Memory.read_store (by simpa using hone),
    Memory.read_store ha]

/-- The lists of the outcome were not in memory before. -/
lemma next_le_of_mem_lists_merge {o : Overrides} {a : Nat} (ha : a ∈ (h.merge o m).1.lists) :
    m.next ≤ a := by
  simp only [merge, lists, Memory.next_store, List.mem_cons, List.not_mem_nil, or_false] at ha
  omega

/-- **What is seen after the merging** is what the settings seen before give with the overrides. -/
theorem view_merge (hin : h.IsIn m) (o : Overrides) :
    (h.merge o m).1.view (h.merge o m).2 = (h.view m).merge o := by
  have hinvert : h.invertMatch < m.next := hin _ (by simp [lists])
  have hexclude : h.excludeFunc < m.next := hin _ (by simp [lists])
  have hone : ∀ {a : Nat} {items : List String}, a < m.next + 1 → a < (m.store items).next := fun ha => by
    rwa [Memory.next_store]
  have htwo : ∀ {a : Nat} {items items' : List String}, a < m.next + 2 →
      a < ((m.store items).store items').next := fun ha => by
    rwa [Memory.next_store, Memory.next_store]
  simp only [merge, view, Settings.merge]
  congr 1
  · rw [Memory.read_store (htwo (by omega)), Memory.read_store (hone (by omega)), Memory.read_store_next]
  · rw [Memory.read_store (htwo (by rw [Memory.next_store]; omega)), Memory.read_store_next,
      Memory.read_store hinvert]
  · rw [Memory.read_store_next, Memory.read_store (hone (by omega)), Memory.read_store hexclude]

/-- **The settings below are as before**, also when lists of the outcome are changed. -/
theorem view_write_merge (hin : h.IsIn m) (o : Overrides) :
    h.view (h.merge o m).2 = h.view m
      ∧ ∀ a ∈ (h.merge o m).1.lists, ∀ items,
          h.view ((h.merge o m).2.write a items) = h.view m := by
  have hbelow : h.view (h.merge o m).2 = h.view m :=
    view_congr fun a ha => read_merge o (hin a ha)
  refine ⟨hbelow, fun a ha items => (view_congr fun b hb => Memory.read_write ?_).trans hbelow⟩
  have hnew := next_le_of_mem_lists_merge ha
  have hold := hin b hb
  omega

end Held

end Settings

end FunctionChurn
