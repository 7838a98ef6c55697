import FunctionChurn.Text.Escape
import FunctionChurn.Text.Search
import Mathlib.Data.List.Basic
import Mathlib.Data.List.TakeWhile
import Mathlib.Tactic.Common

/-!
# Texts that are shown as they are

Blanks at its ends, line ends and control characters are what a table changes about a text, or what changes
a table.  Without them a text stays what it is, also with blanks around it and in a line among others.

* `Text.IsShown` is a text with nothing of it.
* `Text.trim_between` and `Text.IsShown.trimmed`: blanks around a text are left out, and nothing else is.
* `Text.visible_of_notMem`, `Text.hasEscape_of_notMem`: without escape characters there are no escapes.
* **`Text.linesBy_joined`**: lines that were put together are got back.
-/

namespace FunctionChurn.Text

/-! ## What is shown -/

/-- **Control characters**: those before the space, and those from delete on, outside ASCII. -/
def isControl (c : Char) : Bool := c.toNat < 0x20 || (0x7F ≤ c.toNat && c.toNat ≤ 0x9F)

/-- **A text that is shown as it is**: it has a character, no blank at its ends, and neither line ends nor
control characters. -/
structure IsShown (cs : List Char) : Prop where
  ne_nil : cs ≠ []
  front : ∀ c ∈ cs.head?, isBlank c = false
  back : ∀ c ∈ cs.getLast?, isBlank c = false
  unbroken : ∀ c ∈ cs, endsLine c = false
  uncontrolled : ∀ c ∈ cs, isControl c = false

instance (cs : List Char) : Decidable (IsShown cs) :=
  decidable_of_iff (cs ≠ [] ∧ cs.head?.all (fun c => !isBlank c) ∧ cs.getLast?.all (fun c => !isBlank c)
      ∧ cs.all (fun c => !endsLine c) ∧ cs.all fun c => !isControl c) <| by
    simp only [Option.all_eq_true, List.all_eq_true, Bool.not_eq_true']
    exact ⟨fun ⟨hne, hfront, hback, hlines, hcontrols⟩ => ⟨hne, hfront, hback, hlines, hcontrols⟩,
      fun h => ⟨h.ne_nil, h.front, h.back, h.unbroken, h.uncontrolled⟩⟩

/-- The visible characters of ASCII are no blanks and end no line. -/
lemma not_isBlank_of_ascii {c : Char} (h : 0x20 < c.toNat ∧ c.toNat < 0x7F) :
    isBlank c = false ∧ endsLine c = false ∧ isControl c = false := by
  have hnat : ∀ a b : Char, a ≤ b ↔ a.toNat ≤ b.toNat := fun _ _ => Iff.rfl
  have heq : ∀ a b : Char, a = b ↔ a.toNat = b.toNat := fun a b => Char.toNat_inj.symm
  refine ⟨?_, ?_, ?_⟩ <;>
    simp only [isBlank, isSpacing, isWideSpacing, endsLine, isControl, hnat, heq, Bool.or_eq_false_iff,
      Bool.and_eq_false_iff, decide_eq_false_iff_not, beq_eq_false_iff_ne, ne_eq, Char.reduceToNat] <;>
    omega

/-- Visible characters of ASCII are shown as they are. -/
lemma isShown_of_ascii {cs : List Char} (hne : cs ≠ []) (h : ∀ c ∈ cs, 0x20 < c.toNat ∧ c.toNat < 0x7F) :
    IsShown cs where
  ne_nil := hne
  front c hc := (not_isBlank_of_ascii (h c (List.mem_of_mem_head? hc))).1
  back c hc := (not_isBlank_of_ascii (h c (List.mem_of_mem_getLast? hc))).1
  unbroken c hc := (not_isBlank_of_ascii (h c hc)).2.1
  uncontrolled c hc := (not_isBlank_of_ascii (h c hc)).2.2

/-! ## Numbers -/

/-- A natural number is written in digits. -/
lemma digit_of_mem_toString {m : Nat} {c : Char} (hc : c ∈ (toString m).toList) :
    0x30 ≤ c.toNat ∧ c.toNat ≤ 0x39 := by
  rw [Nat.toString_eq_ofList_toDigits, String.toList_ofList] at hc
  have hdigit := Nat.isDigit_of_mem_toDigits (by decide) (by decide) hc
  rw [Char.isDigit, Bool.and_eq_true, decide_eq_true_eq, decide_eq_true_eq, ge_iff_le,
    UInt32.le_iff_toNat_le, UInt32.le_iff_toNat_le] at hdigit
  exact hdigit

lemma toList_toString_ne_nil (m : Nat) : (toString m).toList ≠ [] := by
  rw [Nat.toString_eq_ofList_toDigits, String.toList_ofList]
  exact Nat.toDigits_ne_nil

lemma toList_toString_negSucc (m : Nat) :
    (toString (Int.negSucc m)).toList = '-' :: (toString (m + 1)).toList := String.toList_append

/-- A whole number is shown as it is. -/
lemma isShown_toString (n : Int) : IsShown (toString n).toList := by
  have hdigits : ∀ m : Nat, ∀ c ∈ (toString m).toList, 0x20 < c.toNat ∧ c.toNat < 0x7F := by
    intro m c hc
    have hdigit := digit_of_mem_toString hc
    omega
  cases n with
  | ofNat m => exact isShown_of_ascii (toList_toString_ne_nil m) (hdigits m)
  | negSucc m =>
      rw [toList_toString_negSucc]
      exact isShown_of_ascii (by simp) (List.forall_mem_cons.mpr ⟨by decide, hdigits (m + 1)⟩)

/-- **A whole number is known by its digits.** -/
lemma toString_inj {m n : Int} (h : toString m = toString n) : m = n := by
  have hnat : ∀ {a b : Nat}, toString a = toString b → a = b := by
    intro a b hab
    rw [Nat.toString_eq_ofList_toDigits, Nat.toString_eq_ofList_toDigits, String.ofList_inj] at hab
    rw [← Nat.ofDigitChars_toDigits (b := 10) (n := a) (by decide) (by decide), hab,
      Nat.ofDigitChars_toDigits (by decide) (by decide)]
  -- a minus is no digit
  have hminus : ∀ {a b : Nat}, toString (Int.negSucc a) ≠ toString b := by
    intro a b hab
    have hmem : '-' ∈ (toString b).toList := by
      rw [← hab, toList_toString_negSucc]
      exact List.mem_cons_self
    have hdigit := digit_of_mem_toString hmem
    exact absurd hdigit.1 (by decide)
  cases m with
  | ofNat a =>
      cases n with
      | ofNat b => exact congrArg Int.ofNat (hnat h)
      | negSucc b => exact absurd h.symm hminus
  | negSucc a =>
      cases n with
      | ofNat b => exact absurd h hminus
      | negSucc b =>
          have hdigits := congrArg String.toList h
          rw [toList_toString_negSucc, toList_toString_negSucc, List.cons.injEq, String.toList_inj] at hdigits
          rw [Nat.succ.inj (hnat hdigits.2)]

/-! ## Trimming -/

/-- **Blanks around a text** are left out when it is trimmed. -/
lemma trim_between (before cs behind : List Char) (hbefore : ∀ c ∈ before, isBlank c = true)
    (hbehind : ∀ c ∈ behind, isBlank c = true) :
    trimEnd (trimStart (before ++ cs ++ behind)) = trimEnd (trimStart cs) := by
  have hback : ∀ ds : List Char, trimEnd (ds ++ behind) = trimEnd ds := by
    intro ds
    rw [trimEnd, List.reverse_append, List.dropWhile_append_of_pos (by simpa using hbehind), trimEnd]
  rw [trimStart, List.append_assoc, List.dropWhile_append_of_pos hbefore, List.dropWhile_append, trimStart]
  split
  · next hempty =>
      rw [List.isEmpty_iff] at hempty
      rw [hempty, List.dropWhile_eq_nil_iff.mpr hbehind]
  · exact hback _

/-- What is left out at the end of a text are blanks. -/
lemma exists_eq_trimEnd (cs : List Char) :
    ∃ behind, cs = trimEnd cs ++ behind ∧ ∀ c ∈ behind, isBlank c = true := by
  refine ⟨(cs.reverse.takeWhile isBlank).reverse, ?_, ?_⟩
  · rw [trimEnd, ← List.reverse_append, List.takeWhile_append_dropWhile, List.reverse_reverse]
  · intro c hc
    exact List.mem_takeWhile_imp (List.mem_reverse.mp hc)

/-- A text that is shown as it is has nothing to be left out. -/
lemma IsShown.trimmed {cs : List Char} (h : IsShown cs) : trimEnd (trimStart cs) = cs := by
  obtain ⟨c, rest, rfl⟩ := List.exists_cons_of_ne_nil h.ne_nil
  have hfront : isBlank c = false := h.front c rfl
  rw [trimStart, List.dropWhile_cons_of_neg (by simp [hfront]), trimEnd]
  obtain ⟨d, init, hreverse⟩ := List.exists_cons_of_ne_nil (List.reverse_ne_nil_iff.mpr h.ne_nil)
  have hback : isBlank d = false := by
    refine h.back d ?_
    rw [← List.head?_reverse, hreverse]
    rfl
  rw [hreverse, List.dropWhile_cons_of_neg (by simp [hback]), ← hreverse, List.reverse_reverse]

/-! ## Escapes -/

lemma escape?_of_ne {c : Char} (rest : List Char) (h : c ≠ escapeChar) : escape? (c :: rest) = none := by
  unfold escape?
  split <;> simp_all

/-- Without escape characters nothing is hidden. -/
lemma visible_of_notMem {cs : List Char} (h : escapeChar ∉ cs) : visible cs = cs := by
  rw [visible]
  induction cs with
  | nil => rfl
  | cons c rest ih =>
      rw [List.mem_cons, not_or] at h
      rw [visibleFrom, escape?_of_ne rest (Ne.symm h.1)]
      dsimp only
      rw [ih h.2]

lemma hasEscape_of_notMem {cs : List Char} (h : escapeChar ∉ cs) : hasEscape cs = false := by
  induction cs with
  | nil => rfl
  | cons c rest ih =>
      rw [List.mem_cons, not_or] at h
      rw [hasEscape, escape?_of_ne rest (Ne.symm h.1), ih h.2]
      rfl

/-! ## Lines -/

/-- What stands in texts that were put together is from one of them or from between them. -/
lemma mem_joined {x : Char} {gap : List Char} :
    ∀ {parts : List (List Char)}, x ∈ (parts.intersperse gap).flatten → x ∈ gap ∨ ∃ part ∈ parts, x ∈ part
  | [], h => by simp at h
  | [part], h => .inr (by simpa using h)
  | part :: next :: parts, h => by
      rw [List.intersperse_cons_cons, List.flatten_cons, List.flatten_cons, List.mem_append,
        List.mem_append] at h
      rcases h with hpart | hgap | hrest
      · exact .inr ⟨part, by simp, hpart⟩
      · exact .inl hgap
      · exact (mem_joined hrest).imp_right fun ⟨p, hp, hx⟩ => ⟨p, List.mem_cons_of_mem _ hp, hx⟩

/-- Texts that are put together lose nothing. -/
lemma mem_joined_of_mem {x : Char} (gap : List Char) :
    ∀ {parts : List (List Char)}, (∃ part ∈ parts, x ∈ part) → x ∈ (parts.intersperse gap).flatten
  | [], h => by simp at h
  | [part], h => by simpa using h
  | part :: next :: parts, ⟨p, hp, hx⟩ => by
      rw [List.intersperse_cons_cons, List.flatten_cons, List.flatten_cons, List.mem_append, List.mem_append]
      rcases List.mem_cons.mp hp with rfl | hrest
      · exact .inl hx
      · exact .inr (.inr (mem_joined_of_mem gap ⟨p, hrest, hx⟩))

/-- From inside a line to its end, whatever follows. -/
lemma linesBy_append {line : List Char} (h : ∀ c ∈ line, endsLine c = false) (current rest : List Char) :
    linesBy endsLine current (line ++ rest) = linesBy endsLine (line.reverse ++ current) rest := by
  induction line generalizing current with
  | nil => rfl
  | cons c line ih =>
      rw [List.forall_mem_cons] at h
      have hreturn : c ≠ '\r' := by
        rintro rfl
        exact absurd h.1 (by decide)
      rw [List.cons_append, linesBy.eq_3 _ _ _ _ fun _ hc => absurd hc hreturn,
        if_neg (by simp [h.1]), ih h.2, List.reverse_cons, List.append_assoc, List.singleton_append]

/-- **Lines that were put together** are got back. -/
theorem linesBy_joined {lines : List (List Char)}
    (h : ∀ line ∈ lines, line ≠ [] ∧ ∀ c ∈ line, endsLine c = false) :
    linesBy endsLine [] ((lines.intersperse ['\n']).flatten) = lines := by
  induction lines with
  | nil => rfl
  | cons line lines ih =>
      obtain ⟨⟨hne, hline⟩, hlines⟩ := List.forall_mem_cons.mp h
      cases lines with
      | nil =>
          have hend := linesBy_append hline [] []
          simpa [linesBy, hne] using hend
      | cons next lines =>
          rw [List.intersperse_cons_cons, List.flatten_cons, List.flatten_cons, linesBy_append hline,
            List.singleton_append, List.append_nil, linesBy.eq_3 _ _ _ _ (by simp), if_pos (by decide),
            List.reverse_reverse, ih hlines]

end FunctionChurn.Text
