import FunctionChurn.Proofs.Source.Lua.Syntax

/-!
# Reading Lua

A scan gets back the symbols and the gaps that a file of Lua is written with.

* `longLength?_append`: a long bracket goes on to the closing bracket of its level.
* `numberLength_append`: a number goes on over its fraction and its exponent.
* **`Symbol.read`**: every symbol is read to where it ends.
* **`Gap.skips`** and `Ending.visible`: gaps are passed over.
-/

namespace FunctionChurn.Source.Lua

open Go (IsQuoted)
open scoped Go

/-! ## Long brackets -/

lemma runLength_replicate (level : Nat) (after : List Char) :
    runLength (fun x => decide (x = '=')) (List.replicate level '=' ++ '[' :: after) = level := by
  rw [runLength_append (fun c hc => by simpa using List.eq_of_mem_replicate hc) (by simp),
    List.length_replicate]

/-- The level of a long bracket is read. -/
lemma longLevel?_append (level : Nat) (after : List Char) :
    longLevel? (longOpen level ++ after) = some level := by
  have htext : longOpen level ++ after = '[' :: (List.replicate level '=' ++ '[' :: after) := by
    rw [longOpen, List.cons_append, List.append_assoc, List.singleton_append]
  have hdrop : (List.replicate level '=' ++ '[' :: after).drop level = '[' :: after := by
    rw [List.drop_left' List.length_replicate]
  rw [htext]
  simp only [longLevel?, runLength_replicate, hdrop]

/-- **A long bracket goes on to the closing bracket of its level.** -/
lemma longLength?_append (b : Long) (after : List Char) :
    longLength? (b.text ++ after) = some b.text.length := by
  obtain ⟨level, body, unclosed⟩ := b
  have hthrough : throughLength (longClose level) (body ++ (longClose level ++ after))
      = body.length + (longClose level).length :=
    throughLength_append after (List.cons_ne_nil _ _) unclosed
  have hopen : (longOpen level).length = level + 2 := by
    simp only [longOpen, List.length_cons, List.length_append, List.length_replicate, List.length_nil]
  have htext : Long.text ⟨level, body, unclosed⟩ ++ after
      = longOpen level ++ (body ++ (longClose level ++ after)) := by
    simp only [Long.text, List.append_assoc]
  rw [longLength?, htext, longLevel?_append, Option.map_some, ← hopen, List.drop_left, hthrough, Long.text,
    List.length_append, List.length_append]

/-- No long bracket opens where none of its level does. -/
lemma longLength?_eq_none {cs : List Char} (h : isLong cs = false) : longLength? cs = none := by
  have hlevel : longLevel? cs = none := by
    unfold longLevel?
    split
    · next rest =>
        have hdrop : rest.drop (runLength (fun x => decide (x = '=')) rest)
            = rest.dropWhile (· == '=') := drop_runLength _ rest
        rw [isLong, opensLong] at h
        dsimp only
        rw [hdrop]
        split
        · next hrest => simp [hrest] at h
        · rfl
    · rfl
  rw [longLength?, hlevel, Option.map_none]

/-! ## Gaps -/

lemma first_of_blank (c : Char) (rest : List Char) (h : Text.isSpacing c) :
    first c rest = (.blank, runLength Text.isSpacing rest) := by
  unfold first
  rw [if_pos h]

/-- What begins with two dashes is a comment: a long one, or one to the end of its line. -/
lemma first_of_dashes (more : List Char) :
    first '-' ('-' :: more) = (.comment, 1 + (longLength? more).getD (runLength (!endsComment ·) more)) := by
  have hline : runLength (!endsComment ·) ('-' :: more) = 1 + runLength (!endsComment ·) more := by
    rw [runLength, List.takeWhile_cons_of_pos (by decide), List.length_cons, ← runLength, Nat.add_comm]
  unfold first
  rw [if_neg (by decide), if_neg (by decide), if_neg (by decide)]
  split
  · next rest _ hrest =>
      obtain rfl : more = rest := (List.cons.inj hrest).2
      rw [hline]
      cases longLength? more with
      | some n => rfl
      | none => rfl
  · next hbracket => exact absurd hbracket (by decide)
  · next hdouble => exact absurd hdouble (by decide)
  · next hsingle => exact absurd hsingle (by decide)
  · next hother => exact absurd rfl (hother more rfl)

/-- What ends a line opens no long bracket. -/
lemma opensLong_append {cs after : List Char} (h : opensLong cs = false)
    (hafter : ∀ c ∈ after.head?, endsComment c) : opensLong (cs ++ after) = false := by
  have hhead : (after.dropWhile (· == '=')).head? ≠ some '[' := by
    cases after with
    | nil => simp
    | cons c after =>
        have hends := hafter c rfl
        rw [endsComment, Bool.or_eq_true, beq_iff_eq, beq_iff_eq] at hends
        rcases hends with rfl | rfl <;> simp
  rw [opensLong] at h ⊢
  induction cs with
  | nil => simpa using hhead
  | cons c cs ih =>
      by_cases hc : c = '='
      · rw [hc, List.dropWhile_cons_of_pos rfl] at h
        rw [hc, List.cons_append, List.dropWhile_cons_of_pos rfl]
        exact ih h
      · rw [List.dropWhile_cons_of_neg (by simpa using hc)] at h
        rw [List.cons_append, List.dropWhile_cons_of_neg (by simpa using hc)]
        exact h

lemma isLong_append {body after : List Char} (h : isLong body = false)
    (hafter : ∀ c ∈ after.head?, endsComment c) : isLong (body ++ after) = false := by
  cases body with
  | nil =>
      unfold isLong
      split
      · next heq =>
          rw [List.nil_append] at heq
          exact absurd (hafter '[' (by rw [heq]; rfl)) (by decide)
      · rfl
  | cons c body =>
      by_cases hc : c = '['
      · subst hc
        exact opensLong_append h hafter
      · unfold isLong
        split
        · next heq => exact absurd (List.cons.inj heq).1 hc
        · rfl

/-- A comment to the end of its line is read up to there. -/
lemma first_of_line {body : List Char} (after : List Char) (hline : ∀ c ∈ body, ¬ endsComment c)
    (hshort : isLong body = false) (hafter : ∀ c ∈ after.head?, endsComment c) :
    lexis.first '-' ('-' :: body ++ after) = (.comment, ('-' :: body).length) := by
  have hrun : runLength (!endsComment ·) (body ++ after) = body.length :=
    runLength_append (fun c hc => by simpa using hline c hc) fun c hc => by simp [hafter c hc]
  have hlong : isLong (body ++ after) = false := isLong_append hshort hafter
  refine (first_of_dashes (body ++ after)).trans ?_
  rw [longLength?_eq_none hlong, Option.getD_none, hrun, List.length_cons, Nat.add_comm]

/-- **A trivium is passed over.** -/
lemma Trivium.skips (t : Trivium) : lexis.Skips t.text := by
  intro after
  cases t with
  | blank c spacing => exact lexis.visible_blank first_of_blank spacing after
  | line body stop inLine short stops =>
      -- what ends the line is no part of the comment that is read, but a blank behind it
      have hstop : Text.isSpacing stop := by
        rw [endsComment, Bool.or_eq_true, beq_iff_eq, beq_iff_eq] at stops
        rcases stops with rfl | rfl <;> decide
      have hread := lexis.visible_trivia
        (first_of_line (stop :: after) inLine short (by simpa using stops)) rfl
      rw [lexis.visible_blank first_of_blank hstop] at hread
      simpa [Trivium.text] using hread
  | long b =>
      have hfirst : lexis.first '-' ('-' :: b.text ++ after) = (.comment, ('-' :: b.text).length) := by
        refine (first_of_dashes (b.text ++ after)).trans ?_
        rw [longLength?_append, Option.getD_some, List.length_cons, Nat.add_comm]
      exact lexis.visible_trivia hfirst rfl

/-- **A gap is passed over.** -/
theorem Gap.skips (g : Gap) : lexis.Skips g.text := lexis.skips_flatMap fun t _ => t.skips

/-- The end of a file is passed over. -/
lemma Ending.visible (e : Ending) : lexis.visible e.text = [] := by
  rw [Ending.text, Gap.skips]
  cases hcomment : e.comment with
  | none => exact lexis.visible_nil
  | some body =>
      obtain ⟨hline, hshort⟩ := e.inLine body hcomment
      have hread := lexis.visible_trivia (first_of_line [] hline hshort (by simp)) rfl
      rwa [List.append_nil, lexis.visible_nil] at hread

/-! ## Numbers -/

/-- A point is no digit, and neither is a letter that an exponent begins with. -/
lemma not_isDigitIn (hex : Bool) : isDigitIn hex '.' = false
    ∧ ∀ c ∈ exponentLetters hex, isDigitIn hex c = false ∧ c ≠ '.' := by
  cases hex <;> decide

/-- Behind its whole digits a fraction goes on over its own. -/
lemma fractionLength_of_point {p : Char → Bool} {whole rest : List Char} (hpoint : p '.' = false)
    (hwhole : ∀ c ∈ whole, p c) (hrest : rest.head? ≠ some '.') :
    fractionLength p (whole ++ '.' :: rest) = whole.length + 1 + runLength p rest := by
  have hrun : runLength p (whole ++ '.' :: rest) = whole.length :=
    runLength_append hwhole (by simp [hpoint])
  unfold fractionLength
  dsimp only
  rw [hrun, List.drop_left]
  split
  · next heq =>
      obtain ⟨-, rfl⟩ := List.cons.inj heq
      exact absurd rfl hrest
  · next heq =>
      obtain ⟨-, rfl⟩ := List.cons.inj heq
      rfl
  · next hnone => exact absurd rfl (hnone rest)

/-- Without a fraction the digits are all there is. -/
lemma fractionLength_of_whole {p : Char → Bool} {whole after : List Char} (hwhole : ∀ c ∈ whole, p c)
    (hdigit : after.head?.any p = false) (hpoint : opensFraction after = false) :
    fractionLength p (whole ++ after) = whole.length := by
  have hrun : runLength p (whole ++ after) = whole.length := by
    refine runLength_append hwhole fun c hc => ?_
    have hc' : after.head? = some c := hc
    simpa [hc'] using hdigit
  unfold fractionLength
  dsimp only
  rw [hrun, List.drop_left]
  split
  · rfl
  · next rest hnone =>
      have hrest : ¬ rest.head? = some '.' := by
        intro hhead
        obtain ⟨more, hmore⟩ := List.head?_eq_some_iff.mp hhead
        exact hnone more hmore
      simp [opensFraction, hrest] at hpoint
  · rfl

/-- **Digits go on to where they end**, with a point among them or without one. -/
lemma fractionLength_append {hex : Bool} {whole : List Char} {fraction : Option (List Char)}
    {after : List Char} (hdigits : ∀ c ∈ whole ++ fraction.getD [], isDigitIn hex c)
    (hends : endsDigits hex fraction after) :
    fractionLength (isDigitIn hex) (whole ++ fractionText fraction ++ after)
      = (whole ++ fractionText fraction).length := by
  obtain ⟨hwhole, hback⟩ := List.forall_mem_append.mp hdigits
  unfold endsDigits at hends
  rw [Bool.and_eq_true, Bool.not_eq_true'] at hends
  obtain ⟨hdigit, hpoint⟩ := hends
  cases fraction with
  | none =>
      rw [fractionText, List.append_nil]
      exact fractionLength_of_whole hwhole hdigit (by simpa using hpoint)
  | some digits =>
      have hhead : (digits ++ after).head? ≠ some '.' := by
        cases digits with
        | nil => simpa using hpoint
        | cons d digits =>
            have hd : isDigitIn hex d := hback d List.mem_cons_self
            rw [List.cons_append, List.head?_cons, Ne, Option.some.injEq]
            rintro rfl
            simp [(not_isDigitIn hex).1] at hd
      have hrun : runLength (isDigitIn hex) (digits ++ after) = digits.length := by
        refine runLength_append hback fun c hc => ?_
        have hc' : after.head? = some c := hc
        simpa [hc'] using hdigit
      rw [fractionText, List.append_assoc, List.cons_append,
        fractionLength_of_point (not_isDigitIn hex).1 hwhole hhead, hrun, List.length_append,
        List.length_cons]
      omega

lemma digitsBehind_append {before : Nat} {d : Char} {digits after : List Char}
    (hdigits : ∀ c ∈ d :: digits, c.isDigit) (hafter : after.head?.any Char.isDigit = false) :
    digitsBehind before (d :: digits ++ after) = before + (d :: digits).length := by
  have hrun : runLength Char.isDigit (d :: digits ++ after) = (d :: digits).length := by
    refine runLength_append hdigits fun c hc => ?_
    have hc' : after.head? = some c := hc
    simpa [hc'] using hafter
  rw [digitsBehind, hrun, List.length_cons]
  rfl

lemma digitsBehind_eq_zero {before : Nat} {cs : List Char} (h : cs.head?.any Char.isDigit = false) :
    digitsBehind before cs = 0 := by
  have hrun : runLength Char.isDigit cs = 0 := by
    cases cs with
    | nil => rfl
    | cons c cs =>
        have hc : c.isDigit = false := h
        rw [runLength, List.takeWhile_cons_of_neg (by simp [hc]), List.length_nil]
  rw [digitsBehind, hrun]
  rfl

/-- What is behind the letter of an exponent is a sign and digits. -/
lemma exponentLength_cons {lower upper c : Char} (hc : c = lower ∨ c = upper) (rest : List Char) :
    exponentLength lower upper (c :: rest)
      = digitsBehind (1 + (rest.length - (unsigned rest).length)) (unsigned rest) := by
  unfold exponentLength
  dsimp only
  rw [if_pos hc]
  split
  · next more => simp [unsigned]
  · next more => simp [unsigned]
  · next hplus hminus =>
      have hsame : unsigned rest = rest := by
        unfold unsigned
        split
        · next more => exact absurd rfl (hplus more)
        · next more => exact absurd rfl (hminus more)
        · rfl
      rw [hsame, Nat.sub_self]

/-- A sign is taken off, and a digit is none. -/
lemma unsigned_append {sign : List Char} (hsign : sign ∈ [[], ['+'], ['-']]) {digit : Char}
    (hdigit : digit.isDigit) (rest : List Char) :
    unsigned (sign ++ digit :: rest) = digit :: rest := by
  simp only [List.mem_cons, List.not_mem_nil, or_false] at hsign
  rcases hsign with rfl | rfl | rfl
  · rw [List.nil_append]
    unfold unsigned
    split
    · next heq =>
        obtain rfl := (List.cons.inj heq).1
        exact absurd hdigit (by decide)
    · next heq =>
        obtain rfl := (List.cons.inj heq).1
        exact absurd hdigit (by decide)
    · rfl
  · rfl
  · rfl

/-- **An exponent goes on over its digits.** -/
lemma exponentLength_append {e : Exponent} {lower upper : Char}
    (hletter : e.letter = lower ∨ e.letter = upper) {after : List Char}
    (hafter : after.head?.any Char.isDigit = false) :
    exponentLength lower upper (e.text ++ after) = e.text.length := by
  obtain ⟨letter, sign, digit, digits, signed, decimal⟩ := e
  have hunsigned := unsigned_append signed (decimal digit List.mem_cons_self) (digits ++ after)
  rw [Exponent.text, List.cons_append, List.append_assoc, List.cons_append, exponentLength_cons hletter,
    hunsigned, ← List.cons_append, digitsBehind_append decimal hafter]
  simp only [List.length_append, List.length_cons]
  omega

lemma exponentLength_eq_zero {hex : Bool} {lower upper : Char}
    (hletters : exponentLetters hex = [lower, upper]) {after : List Char}
    (h : opensExponent hex after = false) : exponentLength lower upper after = 0 := by
  cases after with
  | nil => rfl
  | cons c rest =>
      by_cases hc : c = lower ∨ c = upper
      · have hknown : (exponentLetters hex).contains c := by simpa [hletters] using hc
        have hopens : opensExponent hex (c :: rest) = ((exponentLetters hex).contains c
            && (unsigned rest).head?.any Char.isDigit) := rfl
        rw [hopens, hknown, Bool.true_and] at h
        rw [exponentLength_cons hc, digitsBehind_eq_zero h]
      · exact if_neg hc

/-- Digits end before an exponent. -/
lemma endsDigits_exponent {hex : Bool} (fraction : Option (List Char)) {e : Exponent}
    (hletter : e.letter ∈ exponentLetters hex) (after : List Char) :
    endsDigits hex fraction (e.text ++ after) := by
  obtain ⟨hdigit, hpoint⟩ := (not_isDigitIn hex).2 e.letter hletter
  have hhead : (e.text ++ after).head? = some e.letter := rfl
  unfold endsDigits
  cases fraction <;> simp [hhead, hdigit, hpoint, opensFraction]

/-- **A number goes on over its fraction and its exponent**, behind what it begins with. -/
lemma length_parts {n : Number} (lower upper : Char) (hletters : exponentLetters n.hex = [lower, upper])
    {after : List Char} (hends : n.ends after) :
    let cs := n.whole ++ fractionText n.fraction ++ exponentText n.exponent ++ after
    fractionLength (isDigitIn n.hex) cs
        + exponentLength lower upper (cs.drop (fractionLength (isDigitIn n.hex) cs))
      = (n.whole ++ fractionText n.fraction ++ exponentText n.exponent).length := by
  have hparts : endsDigits n.hex n.fraction (exponentText n.exponent ++ after)
      ∧ exponentLength lower upper (exponentText n.exponent ++ after)
        = (exponentText n.exponent).length := by
    rw [Number.ends] at hends
    cases hexponent : n.exponent with
    | some e =>
        rw [hexponent] at hends
        have hletter : e.letter ∈ exponentLetters n.hex := n.lettered e hexponent
        have hknown : e.letter = lower ∨ e.letter = upper := by simpa [hletters] using hletter
        exact ⟨endsDigits_exponent n.fraction hletter after,
          exponentLength_append hknown (by simpa using hends)⟩
    | none =>
        rw [hexponent] at hends
        simp only [Bool.and_eq_true, Bool.not_eq_true'] at hends
        exact ⟨hends.1.1, exponentLength_eq_zero hletters hends.1.2⟩
  obtain ⟨hdigits, hexponent⟩ := hparts
  have hfraction := fractionLength_append n.digits hdigits
  dsimp only
  rw [List.append_assoc _ (exponentText n.exponent), Number.hex, hfraction, List.drop_left, hexponent,
    ← List.length_append]

/-- A number in decimal has no radix. -/
lemma numberLength_decimal {cs : List Char} (h : ∀ x rest, cs = '0' :: x :: rest → x ∉ ['x', 'X']) :
    numberLength cs = fractionLength Char.isDigit cs
      + exponentLength 'e' 'E' (cs.drop (fractionLength Char.isDigit cs)) := by
  unfold numberLength
  split
  · next x rest =>
      have hx : ¬ (x = 'x' ∨ x = 'X') := by simpa using h x rest rfl
      rw [if_neg hx]
  · rfl

/-- What stands behind the zero of a number in decimal is no radix. -/
lemma Number.not_radix {n : Number} (hradix : n.radix = none) {after : List Char} (hends : n.ends after)
    {x : Char} {rest : List Char} (h : n.text ++ after = '0' :: x :: rest) : x ∉ ['x', 'X'] := by
  intro hx
  have hletters : ∀ x ∈ ['x', 'X'], x.isDigit = false ∧ x ≠ '.' ∧ x ∉ exponentLetters false := by decide
  obtain ⟨hdigit, hpoint, hexponent⟩ := hletters x hx
  obtain ⟨radix, whole, fraction, exponent, known, lettered, digits, front⟩ := n
  obtain rfl : radix = none := hradix
  cases whole with
  | nil => exact front rfl rfl
  | cons d whole =>
      -- the radix would be another digit, the point, the letter of the exponent, or what stands behind the zero
      obtain ⟨rfl, hback⟩ := List.cons.inj h
      cases whole with
      | cons d' whole =>
          obtain rfl := (List.cons.inj hback).1
          have hd' : d'.isDigit := digits d' (by simp)
          rw [hd'] at hdigit
          contradiction
      | nil =>
          cases fraction with
          | some digits => exact hpoint (List.cons.inj hback).1.symm
          | none =>
              cases exponent with
              | some e =>
                  obtain rfl := (List.cons.inj hback).1
                  exact hexponent (lettered e rfl)
              | none =>
                  obtain rfl : after = x :: rest := hback
                  have hzero : (Number.text ⟨none, ['0'], none, none, by simp, by simp, digits, front⟩
                      == ['0']) = true := rfl
                  have hradix : (x == 'x' || x == 'X') = true := by simpa using hx
                  simp [Number.ends, hzero, hradix] at hends

/-- **A number goes on over its fraction and its exponent.** -/
lemma numberLength_append {n : Number} {after : List Char} (hends : n.ends after) :
    numberLength (n.text ++ after) = n.text.length := by
  cases hradix : n.radix with
  | none =>
      have hhex : n.hex = false := by rw [Number.hex, hradix]; rfl
      have htext : n.text = n.whole ++ fractionText n.fraction ++ exponentText n.exponent := by
        rw [Number.text, Number.radixText, hradix]
        rfl
      have hparts := length_parts 'e' 'E' (by rw [hhex]; rfl) hends
      rw [hhex] at hparts
      rw [numberLength_decimal fun x rest h => n.not_radix hradix hends h, htext]
      exact hparts
  | some x =>
      have hhex : n.hex = true := by rw [Number.hex, hradix]; rfl
      have hx : x = 'x' ∨ x = 'X' := by simpa using n.known x (by rw [hradix]; rfl)
      have htext : n.text = '0' :: x :: (n.whole ++ fractionText n.fraction ++ exponentText n.exponent) := by
        rw [Number.text, Number.radixText, hradix]
        rfl
      have hparts := length_parts 'p' 'P' (by rw [hhex]; rfl) hends
      rw [hhex] at hparts
      have hread : ∀ cs, numberLength ('0' :: x :: cs) = 2 + fractionLength isHexDigit cs
          + exponentLength 'p' 'P' (cs.drop (fractionLength isHexDigit cs)) := fun cs => if_pos hx
      rw [htext, List.cons_append, List.cons_append, hread, Nat.add_assoc]
      refine (congrArg (2 + ·) hparts).trans ?_
      rw [List.length_cons, List.length_cons]
      omega

/-- A number begins with a digit. -/
lemma Number.text_eq_cons (n : Number) : ∃ c more, n.text = c :: more ∧ c.isDigit := by
  cases hradix : n.radix with
  | none =>
      have hdigits : ∀ c ∈ n.whole, c.isDigit := by
        intro c hc
        have hdigit := n.digits c (List.mem_append_left _ hc)
        rwa [hradix] at hdigit
      obtain ⟨c, more, hwhole⟩ := List.exists_cons_of_ne_nil (n.front hradix)
      refine ⟨c, more ++ fractionText n.fraction ++ exponentText n.exponent, ?_, ?_⟩
      · rw [text, radixText, hradix, hwhole]
        rfl
      · exact hdigits c (by rw [hwhole]; exact List.mem_cons_self)
  | some x =>
      refine ⟨'0', x :: (n.whole ++ fractionText n.fraction ++ exponentText n.exponent), ?_, by decide⟩
      rw [text, radixText, hradix]
      rfl

/-! ## Symbols -/

lemma not_isSpacing_of_isNameChar {c : Char} (h : isNameChar c) : ¬ Text.isSpacing c := by
  intro hspacing
  simp [isNameChar, hspacing] at h

/-- **A word is read to its last letter.** -/
lemma first_of_word {c : Char} {more after : List Char} (hc : isNameChar c) (hdigit : ¬ c.isDigit)
    (hmore : ∀ x ∈ more, isNameChar x) (hafter : after.head?.any isNameChar = false) :
    first c (more ++ after) = (.word, more.length) := by
  have hrun : runLength isNameChar (more ++ after) = more.length := by
    refine runLength_append hmore fun x hx => ?_
    have hx' : after.head? = some x := hx
    simpa [hx'] using hafter
  unfold first
  rw [if_neg (not_isSpacing_of_isNameChar hc), if_neg hdigit, if_pos hc, hrun]

/-- What begins with a digit is a number. -/
lemma first_of_number {c : Char} (hc : c.isDigit) (rest : List Char) :
    first c rest = (.literal, numberLength (c :: rest) - 1) := by
  have hspacing : ¬ Text.isSpacing c := by
    simp [not_isSpacing_of_isWordChar (isWordChar_of_isDigit hc)]
  unfold first
  rw [if_neg hspacing, if_pos hc]

/-- **A mark is read by itself**, unless it begins a comment or a long bracket. -/
lemma first_of_mark {c : Char} (known : c ∈ marks) {rest : List Char}
    (hdash : c = '-' → rest.head? ≠ some '-') (hlong : c = '[' → opensLong rest = false) :
    first c rest = (.mark, 0) := by
  have hmarks : ∀ c ∈ marks, ¬ Text.isSpacing c ∧ ¬ c.isDigit ∧ ¬ isNameChar c ∧ c ≠ '"' ∧ c ≠ '\'' := by
    decide
  obtain ⟨hspacing, hdigit, hname, hdouble, hsingle⟩ := hmarks c known
  unfold first
  rw [if_neg hspacing, if_neg hdigit, if_neg hname]
  split
  · exact absurd rfl (hdash rfl)
  · have hshort : isLong ('[' :: rest) = false := hlong rfl
    rw [longLength?_eq_none hshort]
  · exact absurd rfl hdouble
  · exact absurd rfl hsingle
  · rfl

/-- **Every symbol is read to where it ends.** -/
theorem Symbol.read (s : Symbol) : s.part.Read lexis := by
  refine ⟨by cases s <;> rfl, fun after hends => ?_⟩
  cases s with
  | function =>
      have hafter : after.head?.any isNameChar = false := by simpa [Symbol.part, Symbol.ends] using hends
      have hletters : ∀ x ∈ "unction".toList, isNameChar x := by decide
      exact ⟨'f', "unction".toList, rfl, first_of_word (c := 'f') (by decide) (by decide) hletters hafter⟩
  | word w =>
      have hafter : after.head?.any isNameChar = false := by simpa [Symbol.part, Symbol.ends] using hends
      exact ⟨w.front, w.back, rfl, first_of_word w.letter.1 w.letter.2 w.letters hafter⟩
  | number n =>
      obtain ⟨c, more, htext, hc⟩ := n.text_eq_cons
      have hlength : numberLength (n.text ++ after) = n.text.length := numberLength_append hends
      rw [htext, List.cons_append, List.length_cons] at hlength
      refine ⟨c, more, htext, (first_of_number hc _).trans ?_⟩
      rw [hlength, Nat.add_sub_cancel]
      rfl
  | string quote known body quoted =>
      refine ⟨quote, body ++ [quote], rfl, ?_⟩
      have hquote : quote ≠ '\\' := by
        have hall : ∀ q ∈ quotes, q ≠ '\\' := by decide
        exact hall quote known
      have hfirst : ∀ rest, first quote rest = (.literal, quotedLength quote rest) := by
        simp only [quotes, List.mem_cons, List.not_mem_nil, or_false] at known
        rcases known with rfl | rfl <;> exact fun _ => rfl
      refine (hfirst _).trans ?_
      rw [List.append_assoc, List.singleton_append, quotedLength_append hquote quoted,
        List.length_append]
      rfl
  | long b =>
      have hlength := longLength?_append b after
      refine ⟨'[', (List.replicate b.level '=' ++ ['[']) ++ (b.body ++ longClose b.level), rfl, ?_⟩
      have hfirst : ∀ {rest : List Char} {n : Nat}, longLength? ('[' :: rest) = some n →
          first '[' rest = (.literal, n - 1) := by
        intro rest n h
        unfold first
        rw [if_neg (by decide), if_neg (by decide), if_neg (by decide)]
        split
        · next hdash => exact absurd hdash (by decide)
        · rw [h]
        · next hdouble => exact absurd hdouble (by decide)
        · next hsingle => exact absurd hsingle (by decide)
        · contradiction
      refine (hfirst hlength).trans ?_
      rw [Long.text, longOpen, List.cons_append, List.length_cons, Nat.add_sub_cancel]
      rfl
  | mark c known =>
      simp only [Symbol.part, Symbol.ends, Bool.and_eq_true, Bool.not_eq_true', Bool.and_eq_false_iff,
        beq_eq_false_iff_ne] at hends
      obtain ⟨hdash, hlong⟩ := hends
      refine ⟨c, [], rfl, first_of_mark known (fun hc => ?_) fun hc => ?_⟩
      · exact hdash.resolve_left fun hne => hne hc
      · exact hlong.resolve_left fun hne => hne hc

end FunctionChurn.Source.Lua
