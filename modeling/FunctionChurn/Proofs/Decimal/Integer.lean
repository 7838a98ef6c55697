import FunctionChurn.Decimal.Integer
import Mathlib.Data.List.Basic
import Mathlib.Data.List.TakeWhile
import Mathlib.Tactic.Common

/-!
# What is read as a whole number

A count can be written in more than one way: with a sign or without, with spacing around it, in the
digits of any script, and with underscores that set groups of digits apart.  What may be written is
said here as a grammar, without a reader.

* `Integer.Numeral` are digits with single underscores between them, `Integer.Signed` puts a sign in
  front, `Integer.Spells` spacing around.
* `Integer.digits?_eq_some_iff` and `Integer.signed?_eq_some_iff`: what the parts of the reader take.
* **`Integer.read?_eq_some_iff`**: the reader takes what the grammar allows, and nothing else.
-/

namespace FunctionChurn

/-! ## Digits and spacing -/

namespace Text

/-- No digit is spacing. -/
lemma not_isSpacing_of_digit {c : Char} {d : Nat} (h : digitValue? c = some d) :
    isSpacing c = false := by
  obtain ⟨z, hz, -⟩ := Option.map_eq_some_iff.mp h
  have hrange := List.find?_some hz
  simp only [Bool.and_eq_true, decide_eq_true_eq] at hrange
  -- all spacing stands outside the ranges of digits
  have hzeros : ∀ z ∈ zeros, 0x30 ≤ z ∧ (z + 9 < 0x85 ∨ 0xa0 < z) ∧ (z + 9 < 0x1680 ∨ 0x1680 < z)
      ∧ (z + 9 < 0x2000 ∨ 0x3000 < z) := by decide
  obtain ⟨hfirst, hlatin, hogham, hgeneral⟩ := hzeros z (List.mem_of_find?_eq_some hz)
  have hnat : ∀ a b : Char, a ≤ b ↔ a.toNat ≤ b.toNat := fun _ _ => Iff.rfl
  have heq : ∀ a b : Char, a = b ↔ a.toNat = b.toNat := fun a b => Char.toNat_inj.symm
  simp only [isSpacing, isWideSpacing, hnat, heq, Bool.or_eq_false_iff, Bool.and_eq_false_iff,
    decide_eq_false_iff_not, beq_eq_false_iff_ne, ne_eq, Char.reduceToNat]
  omega

/-- **What stands between spacing** is got back, if it neither begins nor ends with any. -/
lemma unspaced_append {before core after : List Char} (hbefore : ∀ c ∈ before, isSpacing c = true)
    (hafter : ∀ c ∈ after, isSpacing c = true) (hhead : ∃ c ∈ core.head?, isSpacing c = false)
    (hlast : ∃ c ∈ core.getLast?, isSpacing c = false) :
    unspaced (before ++ core ++ after) = core := by
  obtain ⟨first, hfirst, hfirst'⟩ := hhead
  obtain ⟨last, hlast, hlast'⟩ := hlast
  have hfront : (before ++ core ++ after).dropWhile isSpacing = core ++ after := by
    rw [List.append_assoc, List.dropWhile_append_of_pos hbefore]
    cases core with
    | nil => simp at hfirst
    | cons c rest =>
        obtain rfl : c = first := by simpa using hfirst
        rw [List.cons_append, List.dropWhile_cons_of_neg (by simp [hfirst'])]
  have hback : (core ++ after).reverse.dropWhile isSpacing = core.reverse := by
    rw [List.reverse_append, List.dropWhile_append_of_pos (by simpa using hafter)]
    rw [← List.head?_reverse] at hlast
    cases hreverse : core.reverse with
    | nil => simp [hreverse] at hlast
    | cons c rest =>
        obtain rfl : c = last := by simpa [hreverse] using hlast
        rw [List.dropWhile_cons_of_neg (by simp [hlast'])]
  rw [unspaced, hfront, hback, List.reverse_reverse]

/-- A text is what stands between its spacing, with spacing around. -/
lemma exists_eq_unspaced (cs : List Char) : ∃ before after,
    cs = before ++ unspaced cs ++ after
      ∧ (∀ c ∈ before, isSpacing c = true) ∧ ∀ c ∈ after, isSpacing c = true := by
  refine ⟨cs.takeWhile isSpacing,
    ((cs.dropWhile isSpacing).reverse.takeWhile isSpacing).reverse, ?_, ?_, ?_⟩
  · rw [unspaced, List.append_assoc, ← List.reverse_append, List.takeWhile_append_dropWhile,
      List.reverse_reverse, List.takeWhile_append_dropWhile]
  · exact fun c hc => List.mem_takeWhile_imp hc
  · exact fun c hc => List.mem_takeWhile_imp (List.mem_reverse.mp hc)

end Text

namespace Integer

/-! ## The grammar -/

/-- **Digits with single underscores between them**, and their values. -/
inductive Numeral : List Char → List Nat → Prop
  | digit {c : Char} {d : Nat} (value : Text.digitValue? c = some d) : Numeral [c] [d]
  | next {c : Char} {d : Nat} {cs : List Char} {ds : List Nat}
      (value : Text.digitValue? c = some d) (rest : Numeral cs ds) : Numeral (c :: cs) (d :: ds)
  | apart {c : Char} {d : Nat} {cs : List Char} {ds : List Nat}
      (value : Text.digitValue? c = some d) (rest : Numeral cs ds) :
      Numeral (c :: '_' :: cs) (d :: ds)

/-- A numeral of a number that is not too long. -/
def Numbers (cs : List Char) (n : Nat) : Prop :=
  ∃ ds, Numeral cs ds ∧ ds.length ≤ digitLimit ∧ n = ofDigits 10 ds

/-- **A numeral with a sign or without.** -/
inductive Signed : List Char → Int → Prop
  | plain {cs : List Char} {n : Nat} (numbers : Numbers cs n) : Signed cs n
  | plus {cs : List Char} {n : Nat} (numbers : Numbers cs n) : Signed ('+' :: cs) n
  | minus {cs : List Char} {n : Nat} (numbers : Numbers cs n) : Signed ('-' :: cs) (-n)

/-- **A text that spells a whole number**: a signed numeral, with spacing around it. -/
def Spells (text : List Char) (n : Int) : Prop :=
  ∃ before cs after, text = before ++ cs ++ after ∧ Signed cs n
    ∧ (∀ c ∈ before, Text.isSpacing c = true) ∧ ∀ c ∈ after, Text.isSpacing c = true

/-! ## Numerals -/

/-- A numeral begins with a digit. -/
lemma Numeral.head {cs : List Char} {ds : List Nat} (h : Numeral cs ds) :
    ∃ c d rest, cs = c :: rest ∧ Text.digitValue? c = some d := by
  cases h with
  | digit value => exact ⟨_, _, _, rfl, value⟩
  | next value => exact ⟨_, _, _, rfl, value⟩
  | apart value => exact ⟨_, _, _, rfl, value⟩

/-- A numeral ends with a digit. -/
lemma Numeral.last {cs : List Char} {ds : List Nat} (h : Numeral cs ds) :
    ∃ c d, cs.getLast? = some c ∧ Text.digitValue? c = some d := by
  induction h with
  | digit value => exact ⟨_, _, rfl, value⟩
  | next _ rest ih =>
      obtain ⟨c, d, hlast, value⟩ := ih
      exact ⟨c, d, by rw [List.getLast?_cons, hlast]; rfl, value⟩
  | apart _ rest ih =>
      obtain ⟨c, d, hlast, value⟩ := ih
      exact ⟨c, d, by rw [List.getLast?_cons, List.getLast?_cons, hlast]; rfl, value⟩

lemma digitValue?_underscore : Text.digitValue? '_' = none := by decide

lemma digitValue?_minus : Text.digitValue? '-' = none := by decide

lemma digitValue?_plus : Text.digitValue? '+' = none := by decide

/-- **The digits of a list of characters are those of a numeral.** -/
theorem digits?_eq_some_iff {cs : List Char} {ds : List Nat} :
    digits? cs = some ds ↔ Numeral cs ds := by
  constructor
  · intro h
    fun_induction digits? cs generalizing ds with
    | case1 => simp at h
    | case2 c =>
        obtain ⟨d, hvalue, rfl⟩ := Option.map_eq_some_iff.mp h
        exact .digit hvalue
    | case3 c rest ih =>
        simp only [Option.bind_eq_bind, Option.bind_eq_some_iff, Option.pure_def,
          Option.some.injEq] at h
        obtain ⟨d, hvalue, more, hrest, rfl⟩ := h
        exact .apart hvalue (ih hrest)
    | case4 c rest _ _ ih =>
        simp only [Option.bind_eq_bind, Option.bind_eq_some_iff, Option.pure_def,
          Option.some.injEq] at h
        obtain ⟨d, hvalue, more, hrest, rfl⟩ := h
        exact .next hvalue (ih hrest)
  · intro h
    induction h with
    | digit value => simp [digits?, value]
    | @next c d cs ds value rest ih =>
        obtain ⟨e, k, more, rfl, hdigit⟩ := rest.head
        have hne : e ≠ '_' := by
          rintro rfl
          simp [digitValue?_underscore] at hdigit
        rw [digits?.eq_4 c (e :: more) (by simp) (by simpa using fun h => absurd h hne)]
        simp [value, ih]
    | apart value rest ih => simp [digits?, value, ih]

/-- The number of a list of characters is that of a numeral. -/
lemma natural?_eq_some_iff {cs : List Char} {n : Nat} : natural? cs = some n ↔ Numbers cs n := by
  simp only [natural?, Numbers, Option.bind_eq_bind, Option.bind_eq_some_iff, digits?_eq_some_iff]
  refine exists_congr fun ds => and_congr_right fun _ => ?_
  split
  · next hshort => simp [hshort, eq_comm]
  · next hlong => simp [hlong]

/-! ## Signs and spacing -/

/-- **A number with a sign or without.** -/
theorem signed?_eq_some_iff {cs : List Char} {n : Int} : signed? cs = some n ↔ Signed cs n := by
  constructor
  · intro h
    unfold signed? at h
    split at h
    · obtain ⟨k, hk, rfl⟩ := Option.map_eq_some_iff.mp h
      exact .minus (natural?_eq_some_iff.mp hk)
    · obtain ⟨k, hk, rfl⟩ := Option.map_eq_some_iff.mp h
      exact .plus (natural?_eq_some_iff.mp hk)
    · obtain ⟨k, hk, rfl⟩ := Option.map_eq_some_iff.mp h
      exact .plain (natural?_eq_some_iff.mp hk)
  · intro h
    cases h with
    | plus numbers => simp [signed?, natural?_eq_some_iff.mpr numbers]
    | minus numbers => simp [signed?, natural?_eq_some_iff.mpr numbers]
    | plain numbers =>
        obtain ⟨ds, hnumeral, -⟩ := id numbers
        obtain ⟨c, d, rest, rfl, hdigit⟩ := hnumeral.head
        have hminus : c ≠ '-' := by
          rintro rfl
          simp [digitValue?_minus] at hdigit
        have hplus : c ≠ '+' := by
          rintro rfl
          simp [digitValue?_plus] at hdigit
        rw [signed?.eq_3 _ (by simpa using fun h => absurd h hminus)
          (by simpa using fun h => absurd h hplus), natural?_eq_some_iff.mpr numbers]
        rfl

/-- A signed numeral neither begins nor ends with spacing. -/
lemma Signed.ends {cs : List Char} {n : Int} (h : Signed cs n) :
    (∃ c ∈ cs.head?, Text.isSpacing c = false) ∧ ∃ c ∈ cs.getLast?, Text.isSpacing c = false := by
  have hnumeral : ∀ {cs : List Char} {n : Nat}, Numbers cs n →
      (∃ c ∈ cs.head?, Text.isSpacing c = false)
        ∧ ∃ c ∈ cs.getLast?, Text.isSpacing c = false := by
    rintro cs n ⟨ds, hds, -⟩
    obtain ⟨first, _, rest, hcs, hfirst⟩ := hds.head
    obtain ⟨last, _, hlast, hlast'⟩ := hds.last
    exact ⟨⟨first, by simp [hcs], Text.not_isSpacing_of_digit hfirst⟩,
      ⟨last, by simp [hlast], Text.not_isSpacing_of_digit hlast'⟩⟩
  have hsign : ∀ (sign : Char) {cs : List Char} {n : Nat}, Text.isSpacing sign = false →
      Numbers cs n → (∃ c ∈ (sign :: cs).head?, Text.isSpacing c = false)
        ∧ ∃ c ∈ (sign :: cs).getLast?, Text.isSpacing c = false := by
    intro sign cs n hspacing numbers
    obtain ⟨-, last, hlast, hlast'⟩ := hnumeral numbers
    rw [Option.mem_def] at hlast
    exact ⟨⟨sign, rfl, hspacing⟩, ⟨last, by rw [List.getLast?_cons, hlast]; rfl, hlast'⟩⟩
  cases h with
  | plain numbers => exact hnumeral numbers
  | plus numbers => exact hsign '+' (by decide) numbers
  | minus numbers => exact hsign '-' (by decide) numbers

/-- **What is read as a whole number is what spells one.** -/
theorem read?_eq_some_iff {s : String} {n : Int} : read? s = some n ↔ Spells s.toList n := by
  rw [read?, signed?_eq_some_iff]
  constructor
  · intro h
    obtain ⟨before, after, heq, hbefore, hafter⟩ := Text.exists_eq_unspaced s.toList
    exact ⟨before, _, after, heq, h, hbefore, hafter⟩
  · rintro ⟨before, cs, after, heq, h, hbefore, hafter⟩
    rw [heq, Text.unspaced_append hbefore hafter h.ends.1 h.ends.2]
    exact h

/-- A sign, spacing, and groups of digits in two scripts. -/
example : read? "  -1_0٣ " = some (-103) := by decide

/-- A text spells one number at most. -/
lemma Spells.unique {text : List Char} {m n : Int} (hm : Spells text m) (hn : Spells text n) :
    m = n := by
  rw [← String.toList_ofList (l := text), ← read?_eq_some_iff] at hm hn
  exact Option.some.inj (hm.symm.trans hn)

end Integer

end FunctionChurn
