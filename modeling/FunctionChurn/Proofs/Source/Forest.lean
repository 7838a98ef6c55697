import FunctionChurn.Source.Forest
import Mathlib.Tactic.Common

/-!
# Forests with brackets in pairs

A forest is built from the tokens of a file, whatever they are.  When the brackets of the file stand in
pairs there is only one forest that it can be.

* `Forest.Balanced` says that the groups of a forest are in pairs, and that no bracket stands alone.
* **`Forest.ofTokens_tokens`**: a balanced forest is built from its tokens.
-/

namespace FunctionChurn.Source

namespace Forest

/-! ## Pairs -/

/-- **Whether brackets stand in pairs** and nowhere else. -/
inductive Balanced : Forest → Prop where
  | nil : Balanced nil
  | leaf {t : Token} {rest : Forest} :
      opens t = false → closes t = false → Balanced rest → Balanced (leaf t rest)
  | group {o c : Token} {inner rest : Forest} :
      closes o = false → closes c = true → pairs o c = true → Balanced inner → Balanced rest →
        Balanced (group o inner c rest)

lemma append_nil : ∀ f : Forest, f.append nil = f
  | nil => rfl
  | leaf t rest => by rw [append, append_nil rest]
  | group o inner c rest => by rw [append, append_nil rest]

/-- Only an opening bracket has a partner. -/
lemma opens_of_pairs {o c : Token} (h : pairs o c) : opens o := by
  simp only [pairs, opens, Bool.or_eq_true, Bool.and_eq_true] at h ⊢
  tauto

/-- A token that is no bracket grows the row. -/
lemma push_of_leaf {t : Token} (hopens : opens t = false) (hcloses : closes t = false) (g : Growth) :
    g.push t = ⟨leaf t g.row, g.waiting⟩ := by
  obtain ⟨row, waiting⟩ := g
  rw [Growth.push, hcloses, if_neg (by simp)]
  cases waiting with
  | nil => rfl
  | cons w others =>
      have hpairs : ¬ pairs t w.1 := fun hpairs => by simp [opens_of_pairs hpairs] at hopens
      dsimp only
      rw [if_neg hpairs]

/-- The tokens of a balanced forest grow it in front of what there is, and leave what waits. -/
lemma foldr_push_tokens {f : Forest} (h : Balanced f) :
    ∀ g : Growth, f.tokens.foldr Growth.push g = ⟨f.append g.row, g.waiting⟩ := by
  induction h with
  | nil => exact fun g => rfl
  | leaf hopens hcloses _ ih =>
      intro g
      rw [tokens, List.foldr_cons, ih, push_of_leaf hopens hcloses]
      rfl
  | @group o c inner rest hopening hclosing hpairs _ _ ihinner ihrest =>
      intro g
      have hpushClosing : ∀ h : Growth, h.push c = ⟨nil, (c, h.row) :: h.waiting⟩ := by
        intro h
        rw [Growth.push, if_pos hclosing]
      have hpushOpening : ∀ (row behind : Forest) (others : List (Token × Forest)),
          Growth.push o ⟨row, (c, behind) :: others⟩ = ⟨group o row c behind, others⟩ := by
        intro row behind others
        rw [Growth.push, hopening, if_neg (by simp)]
        dsimp only
        rw [if_pos hpairs]
      rw [tokens, List.foldr_cons, List.foldr_append, List.foldr_cons, ihrest, hpushClosing, ihinner,
        hpushOpening, append_nil]
      rfl

/-- **A forest with brackets in pairs is built from its tokens.** -/
theorem ofTokens_tokens {f : Forest} (h : Balanced f) : ofTokens f.tokens = f := by
  rw [ofTokens, foldr_push_tokens h, finish]
  exact append_nil f

end Forest

end FunctionChurn.Source
