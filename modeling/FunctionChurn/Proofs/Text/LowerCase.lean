import FunctionChurn.Text.LowerCase
import FunctionChurn.Proofs.Text.Utf8
import Mathlib.Data.List.Basic
import Mathlib.Tactic.Common

/-!
# When the lower case of a text is a word

Far more than 26 letters have a lower case, some of them one of several characters, and that of a sigma hangs
on its surroundings.  A word of ASCII letters does not see any of this: but for `i` and `k`, which letters
outside ASCII can turn into, its letters come from ASCII letters alone.

* `Text.IsPlain` are the characters that only ASCII characters turn into.
* `Text.exists_lowerChar`: the lower case of a character outside ASCII begins with one that is not plain.
* **`Text.lowerCase_eq_iff`**: the texts whose lower case is a plain word are those that differ from it in the
  case of ASCII letters.
-/

namespace FunctionChurn.Text

/-! ## Characters -/

/-- **A character that comes from ASCII only** when a text is made lower case. -/
def IsPlain (c : Char) : Prop := c.toNat < 0x80 ∧ c ≠ 'i' ∧ c ≠ 'k'

instance (c : Char) : Decidable (IsPlain c) := inferInstanceAs (Decidable (_ ∧ _))

lemma lowerChar_of_ascii {c : Char} (h : c.toNat < 0x80) : lowerChar c = [c.toLower] := by
  rw [lowerChar, if_pos h]

/-- **The table in two halves**: one letter of it turns into a `k`, all others stay outside ASCII. -/
lemma lower_of_mem_caseRanges {r : CaseRange} (h : r ∈ caseRanges) :
    (r.first = r.last ∧ r.lower = 0x6B)
      ∨ (0x80 ≤ r.lower ∧ (r.lower + (r.last - r.first) < 0xD800
        ∨ 0xDFFF < r.lower ∧ r.lower + (r.last - r.first) < 0x110000)) := by
  revert r
  decide +kernel

/-- **What a character outside ASCII turns into** begins with no plain character. -/
lemma exists_lowerChar {c : Char} (h : ¬ c.toNat < 0x80) :
    ∃ d ds, lowerChar c = d :: ds ∧ ¬ IsPlain d := by
  rw [lowerChar, if_neg h]
  split
  · exact ⟨_, _, rfl, by decide⟩
  · cases hfind : caseRanges.find? fun r => r.covers c.toNat with
    | none => exact ⟨c, [], rfl, fun hplain => h hplain.1⟩
    | some r =>
        refine ⟨_, [], rfl, ?_⟩
        have hcovers := List.find?_some hfind
        simp only [CaseRange.covers, Bool.and_eq_true, decide_eq_true_eq] at hcovers
        obtain ⟨⟨hfirst, hlast⟩, -⟩ := hcovers
        rcases lower_of_mem_caseRanges (List.mem_of_find?_eq_some hfind)
          with ⟨hone, hlower⟩ | ⟨hlow, hvalid⟩
        · have hk : r.lowered c.toNat = 0x6B := by
            rw [CaseRange.lowered]
            omega
          rw [hk]
          decide
        · have hchar : (r.lowered c.toNat).isValidChar := by
            rw [CaseRange.lowered]
            rcases hvalid with hvalid | hvalid <;> [left; right] <;> omega
          have hvalue : (Char.ofNat (r.lowered c.toNat)).toNat = r.lowered c.toNat :=
            Utf8.toNat_ofNat hchar
          rintro ⟨hascii, -⟩
          rw [hvalue, CaseRange.lowered] at hascii
          omega

/-- The case of ASCII letters alone leaves all other characters as they are. -/
lemma toLower_of_not_ascii {c : Char} (h : ¬ c.toNat < 0x80) : c.toLower = c := by
  have hlast : ¬ c.val ≤ 'Z'.val := by
    rw [UInt32.le_iff_toNat_le]
    exact fun hle => h (Nat.lt_of_le_of_lt hle (by decide))
  exact dif_neg fun hletter => hlast hletter.2

/-! ## Texts -/

/-- **A plain word as a lower case**, from the middle of a text on. -/
lemma lowerFrom_eq_iff {word : List Char} (h : ∀ d ∈ word, IsPlain d) (before cs : List Char) :
    lowerFrom before cs = word ↔ cs.map Char.toLower = word := by
  induction cs generalizing before word with
  | nil => rfl
  | cons c rest ih =>
      rw [lowerFrom, List.map_cons]
      by_cases hascii : c.toNat < 0x80
      · have hsigma : c ≠ 'Σ' := by
          rintro rfl
          exact absurd hascii (by decide)
        rw [if_neg fun hends => hsigma hends.1, lowerChar_of_ascii hascii, List.singleton_append]
        cases word with
        | nil => simp
        | cons d word =>
            rw [List.cons.injEq, List.cons.injEq, ih (List.forall_mem_cons.mp h).2]
      · -- neither side can be a plain word, since both begin outside of it
        obtain ⟨d, ds, hfront, hplain⟩ : ∃ d ds,
            (if c = 'Σ' ∧ endsWord before rest then ['ς'] else lowerChar c) = d :: ds ∧ ¬ IsPlain d := by
          split
          · exact ⟨_, _, rfl, by decide⟩
          · exact exists_lowerChar hascii
        rw [hfront, toLower_of_not_ascii hascii]
        constructor
        · rintro rfl
          exact absurd (h d (by simp)) hplain
        · rintro rfl
          exact absurd (h c (by simp)).1 hascii

/-- **A text whose lower case is a plain word** is that word but for the case of ASCII letters. -/
theorem lowerCase_eq_iff {word : String} (h : ∀ d ∈ word.toList, IsPlain d) (s : String) :
    lowerCase s = word ↔ s.toList.map Char.toLower = word.toList := by
  rw [lowerCase, ← lowerFrom_eq_iff h [], ← String.toList_inj, String.toList_ofList]

/-- The `K` of the sign for kelvin has the letter `k` as its lower case, so that `k` is not plain. -/
example : lowerCase "\u212A" = "k" := by decide

end FunctionChurn.Text
