import FunctionChurn.Proofs.Workers
import FunctionChurn.Report.Run

/-!
# Why a grammar cannot be had

Whether a language can be searched does not depend on what was loaded for others, so one can say for each
language by itself what is wrong with it.

* `Supplies.fault?` is what is wrong with a language, if anything is.
* `Registry.failure?_equip`: when nothing was loaded for a language before, loading for it fails with that.
* **`Reporter.failure?_equip`**: of several languages, the first with something wrong is told of.
-/

namespace FunctionChurn

/-- **What is wrong with the grammar or the query of a language**, if anything is. -/
def Supplies.fault? (s : Supplies) (l : Language) : Option GrammarError :=
  match s.loader l with
  | .absent => some (.unavailable l)
  | .failing reason => some (.loading l reason)
  | .working =>
      match s.querySource l with
      | .error e => some e
      | .ok source =>
          match s.compile l source with
          | .error reason => some (.queryInvalid l reason)
          | .ok _ => none

namespace Registry

variable {r : Registry} {s : Supplies} {l k : Language}

/-- Whether nothing was loaded for a language. -/
def Lacks (r : Registry) (l : Language) : Prop := r.grammars l = none ∧ r.queries l = none

/-- A grammar loaded for one language is not one for another. -/
lemma Lacks.addGrammar (h : r.Lacks k) (hne : k ≠ l) (n : Nat) : (r.addGrammar ⟨l, n⟩).Lacks k :=
  ⟨by simp [Registry.addGrammar, hne, h.1], h.2⟩

/-- A query read for one language is not one for another. -/
lemma Lacks.addQuery (h : r.Lacks k) (hne : k ≠ l) (n : Nat) (names : List String) :
    (r.addQuery ⟨l, n, names⟩).Lacks k :=
  ⟨h.1, by simp [Registry.addQuery, hne, h.2]⟩

/-- The grammar that was just loaded is there. -/
lemma grammars_addGrammar (n : Nat) : (r.addGrammar ⟨l, n⟩).grammars l = some ⟨l, n⟩ := by
  simp [addGrammar]

/-- **Loading for a language** fails with what is wrong with it. -/
theorem failure?_equip (h : r.Lacks l) : failure? (r.equip s l).1 = s.fault? l := by
  have hqueries : (r.addGrammar ⟨l, r.next⟩).queries l = none := h.2
  cases hloader : s.loader l with
  | absent => simp [Supplies.fault?, equip, grammar, h.1, hloader]
  | failing reason => simp [Supplies.fault?, equip, grammar, h.1, hloader]
  | working =>
      simp only [equip, grammar, h.1, hloader, query, hqueries, grammars_addGrammar, Supplies.fault?]
      cases s.querySource l with
      | error e => rfl
      | ok source =>
          dsimp only
          cases s.compile l source <;> rfl

/-- Loading for one language concerns no other. -/
lemma Lacks.equip (h : r.Lacks l) (hk : r.Lacks k) (hne : k ≠ l) : (r.equip s l).2.Lacks k := by
  have hqueries : (r.addGrammar ⟨l, r.next⟩).queries l = none := h.2
  cases hloader : s.loader l with
  | absent => simpa only [Registry.equip, grammar, h.1, hloader] using hk
  | failing reason => simpa only [Registry.equip, grammar, h.1, hloader] using hk
  | working =>
      simp only [Registry.equip, grammar, h.1, hloader, query, hqueries, grammars_addGrammar]
      cases s.querySource l with
      | error e => exact hk.addGrammar hne _
      | ok source =>
          dsimp only
          cases s.compile l source with
          | error reason => exact hk.addGrammar hne _
          | ok names => exact (hk.addGrammar hne _).addQuery hne _ names

end Registry

/-- **Extractors for several languages** can be prepared unless something is wrong with one of them; then
the first such language is told of. -/
theorem Reporter.failure?_equip (s : Supplies) :
    ∀ {ls : List Language} {r : Registry}, ls.Nodup → (∀ l ∈ ls, r.Lacks l) →
      failure? (equip s r ls) = ls.findSome? s.fault?
  | [], r, _, _ => rfl
  | l :: ls, r, hnodup, hlacks => by
      obtain ⟨hfresh, hnodup⟩ := List.nodup_cons.mp hnodup
      obtain ⟨hl, hothers⟩ := List.forall_mem_cons.mp hlacks
      have hrest : ∀ k ∈ ls, (r.equip s l).2.Lacks k := fun k hk =>
        hl.equip (hothers k hk) fun heq => hfresh (heq ▸ hk)
      rw [equip, List.findSome?_cons, ← Registry.failure?_equip hl, ← Reporter.failure?_equip s hnodup hrest]
      rcases r.equip s l with ⟨e | q, r'⟩
      · rfl
      · exact failure?_map _ _

end FunctionChurn
