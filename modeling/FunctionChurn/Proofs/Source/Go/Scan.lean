import FunctionChurn.Proofs.Source.Reading

/-!
# Reading a file part by part

A file is written part by part with gaps between them, and the scan gets the parts and the gaps back.
Offsets and lines do not matter here, so a token is looked at without them.

* `Token.look` is a token without its place, and `looks` the tokens of lexemes without their places.
* `first_of_blank`, `first_of_word`, … are the lexical rules, one for each kind of lexeme.
* `looks_gap` and `looks_part` are the scan of what a file is made of.
* **`looks_pieces`**: the scan of pieces that are kept apart gives these pieces.
-/

namespace FunctionChurn.Source

/-! ## Tokens without their places -/

/-- A token without its place: its gap, its kind and its text. -/
def Token.look (t : Token) : List Char × LexemeKind × List Char := (t.gap, t.kind, t.text)

/-- The tokens of lexemes without their places, given what was skipped just before them. -/
def looks (gap : List Char) : List Lexeme → List (List Char × LexemeKind × List Char)
  | [] => []
  | x :: rest =>
      if Token.isTrivia x.kind then looks (gap ++ x.text) rest
      else (gap, x.kind, x.text) :: looks [] rest

/-- What a token is does not depend on where it is placed. -/
lemma map_look_place : ∀ (gap : List Char) (offset line : Nat) (xs : List Lexeme),
    (Token.place gap offset line xs).map Token.look = looks gap xs
  | _, _, _, [] => rfl
  | gap, offset, line, x :: rest => by
      rw [Token.place, looks]
      split
      · exact map_look_place _ _ _ rest
      · rw [List.map_cons, map_look_place [] _ _ rest]
        rfl

namespace Go

/-! ## Lexical rules -/

lemma first_of_blank {c : Char} (h : Text.isSpacing c) (rest : List Char) :
    first c rest = (.blank, runLength Text.isSpacing rest) := by
  unfold first
  rw [if_pos h]

lemma first_of_word {c : Char} {more after : List Char} (hc : isWordChar c) (hdigit : ¬ c.isDigit)
    (hmore : ∀ x ∈ more, isWordChar x) (hafter : ∀ x ∈ after.head?, ¬ isWordChar x) :
    first c (more ++ after) = (.word, more.length) := by
  have hpoint : c ≠ '.' := by
    rintro rfl
    exact absurd hc (by decide)
  have hnumber : ¬ startsNumber c (more ++ after) := by simp [startsNumber, hdigit, hpoint]
  have hspacing : ¬ Text.isSpacing c := by simp [not_isSpacing_of_isWordChar hc]
  unfold first
  rw [if_neg hspacing, if_neg hnumber, if_pos hc, runLength_append hmore hafter]

/-- What begins neither a blank, a word, a number nor a text is a mark. -/
lemma first_of_mark {c : Char} {rest : List Char} (hspacing : ¬ Text.isSpacing c)
    (hnumber : ¬ startsNumber c rest) (hword : ¬ isWordChar c)
    (hquote : c ≠ '"' ∧ c ≠ '\'' ∧ c ≠ '\x60')
    (hslash : c = '/' → ∀ x ∈ rest.head?, x ≠ '/' ∧ x ≠ '*') :
    first c rest = (.mark, operatorLength c rest) := by
  obtain ⟨hdouble, hsingle, hback⟩ := hquote
  unfold first
  rw [if_neg hspacing, if_neg hnumber, if_neg hword]
  split
  · exact absurd rfl (hslash rfl '/' rfl).1
  · exact absurd rfl (hslash rfl '*' rfl).2
  · exact absurd rfl hdouble
  · exact absurd rfl hsingle
  · exact absurd rfl hback
  · rfl

/-! ## Numbers -/

/-- Whether characters belong to a number behind one of its characters. -/
def Taken (hex : Bool) : Char → List Char → Prop
  | _, [] => True
  | previous, c :: rest =>
      (isWordChar c || c == '.' || ((c == '+' || c == '-') && takesSign hex previous))
        ∧ Taken hex c rest

lemma taken_of_forall {hex : Bool} :
    ∀ {previous : Char} {cs : List Char}, (∀ c ∈ cs, isWordChar c ∨ c = '.') → Taken hex previous cs
  | _, [], _ => trivial
  | _, c :: cs, h => by
      obtain ⟨hc, hcs⟩ := List.forall_mem_cons.mp h
      refine ⟨?_, taken_of_forall hcs⟩
      rcases hc with hc | rfl
      · simp [hc]
      · rfl

lemma taken_append {hex : Bool} :
    ∀ {previous : Char} {as bs : List Char},
      Taken hex previous as → Taken hex (as.getLastD previous) bs → Taken hex previous (as ++ bs)
  | _, [], _, _, h => h
  | _, a :: as, _, ⟨ha, has⟩, h => ⟨ha, taken_append has (by rwa [List.getLastD_cons] at h)⟩

/-- A number goes on over what belongs to it, and on from there. -/
lemma numberLength_append {hex : Bool} :
    ∀ {previous : Char} {cs : List Char} (after : List Char), Taken hex previous cs →
      numberLength hex previous (cs ++ after)
        = cs.length + numberLength hex (cs.getLastD previous) after
  | _, [], after, _ => (Nat.zero_add _).symm
  | previous, c :: cs, after, ⟨hc, hcs⟩ => by
      rw [List.cons_append, numberLength, if_pos hc, numberLength_append after hcs,
        List.getLastD_cons, List.length_cons]
      omega

lemma numberLength_of_end {hex : Bool} {previous : Char} {after : List Char}
    (hsign : takesSign hex previous = false)
    (hafter : ∀ c ∈ after.head?, ¬ isWordChar c ∧ c ≠ '.') : numberLength hex previous after = 0 := by
  cases after with
  | nil => rfl
  | cons c rest =>
      obtain ⟨hword, hpoint⟩ := hafter c rfl
      rw [numberLength, if_neg]
      simp [hword, hpoint, hsign]

/-- The letters that a sign can stand behind. -/
def exponentLetters (hex : Bool) : List Char := if hex then ['p', 'P'] else ['e', 'E']

lemma takesSign_iff {hex : Bool} {c : Char} : takesSign hex c ↔ c ∈ exponentLetters hex := by
  cases hex <;> simp [takesSign, exponentLetters]

lemma not_takesSign_of_digit {hex : Bool} {c : Char} (h : c.isDigit ∨ c = '_') :
    takesSign hex c = false := by
  rw [← Bool.not_eq_true, takesSign_iff]
  intro hmem
  have hletter : c = 'p' ∨ c = 'P' ∨ c = 'e' ∨ c = 'E' := by
    cases hex <;> simp [exponentLetters] at hmem <;> tauto
  rcases hletter with rfl | rfl | rfl | rfl <;> exact absurd h (by decide)

/-- An exponent belongs to the number, and it does not end in its letter. -/
lemma taken_exponent {hex : Bool} {exponent : List Char}
    (h : IsExponent (exponentLetters hex) exponent) (previous : Char) :
    Taken hex previous exponent
      ∧ (takesSign hex previous = false → takesSign hex (exponent.getLastD previous) = false) := by
  cases h with
  | none => exact ⟨trivial, id⟩
  | @some letter digit sign digits hletter hsign hdigit hdigits =>
      have hword : isWordChar letter := by
        have : ∀ c ∈ exponentLetters hex, isWordChar c := by cases hex <;> decide
        exact this letter hletter
      have hback : ∀ c ∈ digit :: digits, c.isDigit ∨ c = '_' :=
        List.forall_mem_cons.mpr ⟨.inl hdigit, hdigits⟩
      have hdigitsTaken : ∀ p, Taken hex p (digit :: digits) := by
        intro p
        refine taken_of_forall fun c hc => .inl ?_
        rcases hback c hc with h | rfl
        · exact isWordChar_of_isDigit h
        · decide
      have hsignTaken : Taken hex letter (sign ++ digit :: digits) := by
        simp only [List.mem_cons, List.not_mem_nil, or_false] at hsign
        rcases hsign with rfl | rfl | rfl
        · exact hdigitsTaken letter
        · exact ⟨by simp [takesSign_iff.mpr hletter], hdigitsTaken '+'⟩
        · exact ⟨by simp [takesSign_iff.mpr hletter], hdigitsTaken '-'⟩
      refine ⟨⟨by simp [hword], hsignTaken⟩, fun _ => ?_⟩
      have hlast : (letter :: (sign ++ digit :: digits)).getLastD previous = digits.getLastD digit := by
        rw [List.getLastD_cons, getLastD_append, List.getLastD_cons]
      rw [hlast]
      exact not_takesSign_of_digit (hback _ List.getLastD_mem_cons)

lemma taken_unit (hex : Bool) {unit : List Char} (h : IsUnit unit) (previous : Char) :
    Taken hex previous unit
      ∧ (takesSign hex previous = false → takesSign hex (unit.getLastD previous) = false) := by
  rcases h with rfl | rfl
  · exact ⟨trivial, id⟩
  · refine ⟨⟨rfl, trivial⟩, fun _ => ?_⟩
    cases hex <;> rfl

/-- Digits, an exponent and a unit belong to the number, and the last of them takes no sign. -/
lemma taken_number (hex : Bool) {previous : Char} {digits exponent unit : List Char}
    (hprevious : takesSign hex previous = false)
    (hdigits : ∀ x ∈ digits, (isWordChar x ∨ x = '.') ∧ takesSign hex x = false)
    (hexponent : IsExponent (exponentLetters hex) exponent) (hunit : IsUnit unit) :
    Taken hex previous (digits ++ exponent ++ unit)
      ∧ takesSign hex ((digits ++ exponent ++ unit).getLastD previous) = false := by
  have hlast : takesSign hex (digits.getLastD previous) = false := by
    rcases List.mem_cons.mp (List.getLastD_mem_cons (l := digits) (a := previous)) with heq | hmem
    · rwa [heq]
    · exact (hdigits _ hmem).2
  obtain ⟨hexponentTaken, hexponentLast⟩ := taken_exponent hexponent (digits.getLastD previous)
  obtain ⟨hunitTaken, hunitLast⟩ :=
    taken_unit hex hunit (exponent.getLastD (digits.getLastD previous))
  have hfront := taken_append (taken_of_forall fun c hc => (hdigits c hc).1) hexponentTaken
  rw [getLastD_append, getLastD_append]
  refine ⟨taken_append hfront ?_, hunitLast (hexponentLast hlast)⟩
  rwa [getLastD_append]

/-- What begins a number is not a blank. -/
lemma first_of_number {c : Char} {more after : List Char} {hex : Bool}
    (hstart : startsNumber c (more ++ after)) (hhex : isHex c (more ++ after) = hex)
    (htaken : Taken hex c more) (hlast : takesSign hex (more.getLastD c) = false)
    (hafter : ∀ x ∈ after.head?, ¬ isWordChar x ∧ x ≠ '.') :
    first c (more ++ after) = (.literal, more.length) := by
  have hspacing : ¬ Text.isSpacing c := by
    rw [startsNumber, Bool.or_eq_true] at hstart
    rcases hstart with hdigit | hpoint
    · simp [not_isSpacing_of_isWordChar (isWordChar_of_isDigit hdigit)]
    · rw [Bool.and_eq_true, beq_iff_eq] at hpoint
      rw [hpoint.1]
      decide
  unfold first
  rw [if_neg hspacing, if_pos hstart, hhex, numberLength_append after htaken,
    numberLength_of_end hlast hafter, Nat.add_zero]

/-- A number in decimal is hexadecimal neither by itself nor by what follows. -/
lemma isHex_of_decimal {c : Char} {digits exponent unit after : List Char}
    (hdigits : ∀ x ∈ digits, x.isDigit ∨ x = '_' ∨ x = '.')
    (hexponent : IsExponent ['e', 'E'] exponent) (hunit : IsUnit unit)
    (hafter : ∀ x ∈ after.head?, ¬ isWordChar x ∧ x ≠ '.') :
    isHex c (digits ++ exponent ++ unit ++ after) = false := by
  -- the radix of a hexadecimal number would be the first character of one of the four texts
  have hhead : ∀ x ∈ (digits ++ exponent ++ unit ++ after).head?, ¬ (x = 'x' ∨ x = 'X') := by
    cases digits with
    | cons d rest =>
        intro x hx
        obtain rfl : d = x := by simpa using hx
        have hd := hdigits d List.mem_cons_self
        rintro (rfl | rfl) <;> exact absurd hd (by decide)
    | nil =>
        cases hexponent with
        | some hletter _ _ _ =>
            intro x hx
            obtain rfl : _ = x := by simpa using hx
            rintro (rfl | rfl) <;> exact absurd hletter (by decide)
        | none =>
            rcases hunit with rfl | rfl
            · intro x hx
              have hword := (hafter x (by simpa using hx)).1
              rintro (rfl | rfl) <;> exact hword (by decide)
            · intro x hx
              obtain rfl : 'i' = x := by simpa using hx
              decide
  rw [isHex, Bool.and_eq_false_iff]
  right
  cases hrest : (digits ++ exponent ++ unit ++ after).head? with
  | none => rfl
  | some x => simpa using hhead x hrest

lemma isWordChar_of_hexValue {c : Char} (h : (Text.hexValue? c).isSome) : isWordChar c := by
  have hrange : ('0' ≤ c ∧ c ≤ '9') ∨ ('a' ≤ c ∧ c ≤ 'f') ∨ ('A' ≤ c ∧ c ≤ 'F') := by
    unfold Text.hexValue? at h
    split at h
    · next hdigit => exact .inl (by simpa using hdigit)
    · split at h
      · next hlower => exact .inr (.inl (by simpa using hlower))
      · split at h
        · next hupper => exact .inr (.inr (by simpa using hupper))
        · simp at h
  have halnum : c.isAlphanum := by
    rw [isAlphanum_iff]
    rcases hrange with ⟨hfrom, hto⟩ | ⟨hfrom, hto⟩ | ⟨hfrom, hto⟩
    · exact .inr (.inr ⟨hfrom, hto⟩)
    · have hle : c.toNat ≤ 102 := hto
      exact .inr (.inl ⟨hfrom, by omega⟩)
    · have hle : c.toNat ≤ 70 := hto
      exact .inl ⟨hfrom, by omega⟩
  simp [isWordChar, halnum]

/-- **A number goes on to where its digits end.** -/
lemma IsNumber.first {text : List Char} (h : IsNumber text) :
    ∃ c more, text = c :: more ∧ c ≠ '\uFEFF' ∧ ∀ after : List Char,
      (∀ x ∈ after.head?, ¬ isWordChar x ∧ x ≠ '.') →
        first c (more ++ after) = (.literal, more.length) := by
  cases h with
  | @decimal c digits exponent unit hc hdigits hexponent hunit =>
      have hstart : ∀ after : List Char, startsNumber c (digits ++ exponent ++ unit ++ after) := by
        intro after
        rcases hc with hdigit | ⟨rfl, hhead⟩
        · simp [startsNumber, hdigit]
        · cases digits with
          | nil => simp at hhead
          | cons d rest => simpa [startsNumber] using hhead
      have hsign : takesSign false c = false := by
        rcases hc with hdigit | ⟨rfl, -⟩
        · exact not_takesSign_of_digit (.inl hdigit)
        · rfl
      have hback : ∀ x ∈ digits, (isWordChar x ∨ x = '.') ∧ takesSign false x = false := by
        intro x hx
        rcases hdigits x hx with hdigit | rfl | rfl
        · exact ⟨.inl (isWordChar_of_isDigit hdigit), not_takesSign_of_digit (.inl hdigit)⟩
        · exact ⟨.inl (by decide), rfl⟩
        · exact ⟨.inr rfl, rfl⟩
      obtain ⟨htaken, hlast⟩ := taken_number false hsign hback hexponent hunit
      refine ⟨c, _, rfl, ?_, fun after hafter => ?_⟩
      · rintro rfl
        rcases hc with hdigit | ⟨hpoint, -⟩
        · exact absurd hdigit (by decide)
        · exact absurd hpoint (by decide)
      · exact first_of_number (hstart after) (isHex_of_decimal hdigits hexponent hunit hafter) htaken
          hlast hafter
  | @short radix digits unit hradix hdigits hunit =>
      have hfacts : ∀ x ∈ ['b', 'B', 'o', 'O'],
          isWordChar x ∧ takesSign false x = false ∧ isHex '0' [x] = false := by decide
      obtain ⟨hword, hsign, hhex⟩ := hfacts radix hradix
      have hback : ∀ x ∈ radix :: digits, (isWordChar x ∨ x = '.') ∧ takesSign false x = false := by
        refine List.forall_mem_cons.mpr ⟨⟨.inl hword, hsign⟩, fun x hx => ?_⟩
        rcases hdigits x hx with hdigit | rfl
        · exact ⟨.inl (isWordChar_of_isDigit hdigit), not_takesSign_of_digit (.inl hdigit)⟩
        · exact ⟨.inl (by decide), rfl⟩
      have hzero : takesSign false '0' = false := rfl
      obtain ⟨htaken, hlast⟩ := taken_number false hzero hback .none hunit
      rw [List.append_nil] at htaken hlast
      refine ⟨'0', _, rfl, by decide, fun after hafter => ?_⟩
      exact first_of_number rfl hhex htaken hlast hafter
  | @hex radix digits exponent unit hradix hdigits hexponent hunit =>
      have hfacts : ∀ x ∈ ['x', 'X'],
          isWordChar x ∧ takesSign true x = false ∧ isHex '0' [x] = true := by decide
      obtain ⟨hword, hsign, hhex⟩ := hfacts radix hradix
      have hback : ∀ x ∈ radix :: digits, (isWordChar x ∨ x = '.') ∧ takesSign true x = false := by
        refine List.forall_mem_cons.mpr ⟨⟨.inl hword, hsign⟩, fun x hx => ?_⟩
        rcases hdigits x hx with hdigit | rfl | rfl
        · refine ⟨.inl (isWordChar_of_hexValue hdigit), ?_⟩
          rw [← Bool.not_eq_true, takesSign]
          rintro hletter
          obtain rfl | rfl : x = 'p' ∨ x = 'P' := by simpa using hletter
          · exact absurd hdigit (by decide)
          · exact absurd hdigit (by decide)
        · exact ⟨.inl (by decide), rfl⟩
        · exact ⟨.inr rfl, rfl⟩
      have hzero : takesSign true '0' = false := rfl
      obtain ⟨htaken, hlast⟩ := taken_number true hzero hback hexponent hunit
      refine ⟨'0', _, rfl, by decide, fun after hafter => ?_⟩
      exact first_of_number rfl hhex htaken hlast hafter

/-! ## Marks -/

lemma operatorLength_of_bracket {c : Char} (h : c ∈ ['(', ')', '[', ']', '\x7b', '\x7d'])
    (rest : List Char) : operatorLength c rest = 0 := by
  have hfront : ∀ b ∈ ['(', ')', '[', ']', '\x7b', '\x7d'], ∀ o ∈ longOperators,
      o.toList.head? ≠ some b := by decide
  have hnone : (longOperators.find? fun o => o.toList.isPrefixOf (c :: rest)) = none := by
    refine List.find?_eq_none.mpr fun o ho hbegins => hfront c h o ho ?_
    rw [List.isPrefixOf_iff_prefix] at hbegins
    cases htext : o.toList with
    | nil =>
        have hne : ∀ o ∈ longOperators, o.toList ≠ [] := by decide
        exact absurd htext (hne o ho)
    | cons d more =>
        rw [htext, List.cons_prefix_cons] at hbegins
        rw [hbegins.1, List.head?_cons]
  rw [operatorLength, hnone]

/-- **The longest operator is read.** -/
lemma operatorLength_append {o : String} {c : Char} {more after : List Char} (ho : o ∈ operators)
    (htext : o.toList = c :: more)
    (hlongest : ∀ longer ∈ operators, longer.toList <+: o.toList ++ after →
      longer.length ≤ o.length) : operatorLength c (more ++ after) = more.length := by
  have hlong : ∀ p ∈ longOperators, p ∈ operators ∧ 2 ≤ p.length := by decide
  have hshort : ∀ p ∈ operators, p ∈ longOperators ∨ p.length = 1 := by decide
  have hsorted : longOperators.Pairwise fun p q => q.length ≤ p.length := by decide
  have hwhole : c :: (more ++ after) = o.toList ++ after := by rw [htext, List.cons_append]
  have hlength : o.length = more.length + 1 := by rw [← String.length_toList, htext, List.length_cons]
  have hself : o.toList.isPrefixOf (o.toList ++ after) = true :=
    List.isPrefixOf_iff_prefix.mpr (List.prefix_append _ _)
  rw [operatorLength]
  split
  · next p hfind =>
      obtain ⟨hbegins, as, bs, hsplit, has⟩ := List.find?_eq_some_iff_append.mp hfind
      rw [List.isPrefixOf_iff_prefix, hwhole] at hbegins
      have hmem : p ∈ longOperators := List.mem_of_find?_eq_some hfind
      have hle := hlongest p (hlong p hmem).1 hbegins
      -- an operator that is read itself is not passed over, so none that is longer comes first
      have hge : o.length ≤ p.length := by
        rcases hshort o ho with homem | hone
        · rw [hsplit, List.mem_append, List.mem_cons] at homem
          rcases homem with hbefore | rfl | hbehind
          · have hnot := has o hbefore
            rw [hwhole, hself] at hnot
            simp at hnot
          · exact Nat.le_refl _
          · rw [hsplit] at hsorted
            exact (List.pairwise_cons.mp (List.pairwise_append.mp hsorted).2.1).1 o hbehind
        · have := (hlong p hmem).2
          omega
      rw [String.length_toList]
      omega
  · next hnone =>
      rcases hshort o ho with homem | hone
      · have hnot := List.find?_eq_none.mp hnone o homem
        rw [hwhole] at hnot
        exact absurd hself hnot
      · omega

/-- **An operator goes on to where it ends.** -/
lemma first_of_operator {o : String} (ho : o ∈ operators) {after : List Char}
    (hends : (Part.symbol (.operator o ho)).Ends after) :
    ∃ c more, o.toList = c :: more ∧ first c (more ++ after) = (.mark, more.length) := by
  obtain ⟨hlongest, hslash, hpoint⟩ := hends
  have hfacts : ∀ p ∈ operators, ∃ c ∈ p.toList.head?, ¬ Text.isSpacing c ∧ ¬ c.isDigit
      ∧ ¬ isWordChar c ∧ (c ≠ '"' ∧ c ≠ '\'' ∧ c ≠ '\x60') := by decide
  have hbegin : ∀ p ∈ operators, (p.toList.head? = some '/' → p = "/" ∨ p = "/=")
      ∧ (p.toList.head? = some '.' → p = "." ∨ p = "...") := by decide
  obtain ⟨c, hc, hspacing, hdigit, hword, hquote⟩ := hfacts o ho
  obtain ⟨more, htext⟩ : ∃ more, o.toList = c :: more := List.head?_eq_some_iff.mp hc
  refine ⟨c, more, htext, ?_⟩
  rw [first_of_mark hspacing ?_ hword hquote ?_, operatorLength_append ho htext hlongest]
  · rw [startsNumber, Bool.or_eq_true, Bool.and_eq_true, beq_iff_eq, not_or]
    refine ⟨hdigit, ?_⟩
    rintro ⟨rfl, hnext⟩
    rcases (hbegin o ho).2 hc with rfl | rfl
    · obtain rfl : more = [] := by simpa using htext.symm
      cases after with
      | nil => simp at hnext
      | cons d rest => exact hpoint rfl d rfl (by simpa using hnext)
    · obtain rfl : more = ['.', '.'] := by simpa using htext.symm
      exact absurd hnext (by simp)
  · rintro rfl x hx
    rcases (hbegin o ho).1 hc with rfl | rfl
    · obtain rfl : more = [] := by simpa using htext.symm
      exact hslash rfl x hx
    · obtain rfl : more = ['='] := by simpa using htext.symm
      obtain rfl : '=' = x := by simpa using hx
      decide

/-! ## Parts -/

/-- What a part is to the search. -/
def Part.kind : Part → LexemeKind
  | symbol (.name _) | symbol (.keyword _ _) | func => .word
  | symbol (.number _ _) | symbol (.rune _ _) | symbol (.string _ _) | symbol (.raw _ _) => .literal
  | symbol (.operator _ _) | opening _ | closing _ => .mark

lemma first_of_keyword {k : String} (hk : k ∈ "func" :: keywords) {after : List Char}
    (hafter : ∀ x ∈ after.head?, ¬ isWordChar x) :
    ∃ c more, k.toList = c :: more ∧ first c (more ++ after) = (.word, more.length) := by
  have hfacts : ∀ p ∈ "func" :: keywords, ∃ c ∈ p.toList.head?, isWordChar c ∧ ¬ c.isDigit
      ∧ ∀ x ∈ p.toList.tail, isWordChar x := by decide
  obtain ⟨c, hc, hword, hdigit, hmore⟩ := hfacts k hk
  obtain ⟨more, htext⟩ : ∃ more, k.toList = c :: more := List.head?_eq_some_iff.mp hc
  rw [htext, List.tail_cons] at hmore
  exact ⟨c, more, htext, first_of_word hword hdigit hmore hafter⟩

lemma first_of_bracket {c : Char} (h : c ∈ ['(', ')', '[', ']', '\x7b', '\x7d'])
    (rest : List Char) : first c rest = (.mark, 0) := by
  have hfacts : ∀ b ∈ ['(', ')', '[', ']', '\x7b', '\x7d'], ¬ Text.isSpacing b ∧ ¬ b.isDigit
      ∧ b ≠ '.' ∧ ¬ isWordChar b ∧ (b ≠ '"' ∧ b ≠ '\'' ∧ b ≠ '\x60') ∧ b ≠ '/' := by decide
  obtain ⟨hspacing, hdigit, hpoint, hword, hquote, hslash⟩ := hfacts c h
  have hnumber : ¬ startsNumber c rest := by simp [startsNumber, hdigit, hpoint]
  rw [first_of_mark hspacing hnumber hword hquote fun heq => absurd heq hslash,
    operatorLength_of_bracket h]

lemma first_of_quote {mark : Char} (h : mark = '"' ∨ mark = '\'') {body after : List Char}
    (hbody : IsQuoted mark body) :
    first mark (body ++ [mark] ++ after) = (.literal, (body ++ [mark]).length) := by
  have hlength : quotedLength mark (body ++ mark :: after) = body.length + 1 := by
    refine quotedLength_append ?_ hbody
    rcases h with rfl | rfl <;> decide
  rw [List.append_assoc, List.singleton_append, List.length_append, List.length_singleton, ← hlength]
  rcases h with rfl | rfl <;> rfl

lemma first_of_backquote {body after : List Char} (hbody : '\x60' ∉ body) :
    first '\x60' (body ++ ['\x60'] ++ after) = (.literal, (body ++ ['\x60']).length) := by
  have hlength : throughLength ['\x60'] (body ++ '\x60' :: after) = body.length + 1 :=
    throughLength_append after (by simp) (by simpa [List.singleton_infix_iff] using hbody)
  rw [List.append_assoc, List.singleton_append, List.length_append, List.length_singleton, ← hlength]
  rfl

/-- **Every part is read to where it ends.** -/
theorem first_of_part (p : Part) {after : List Char} (h : p.Ends after) :
    ∃ c more, p.text = c :: more ∧ first c (more ++ after) = (p.kind, more.length) := by
  cases p with
  | func => exact first_of_keyword List.mem_cons_self h
  | opening b => exact ⟨b.opening, [], rfl, first_of_bracket (by cases b <;> decide) after⟩
  | closing b => exact ⟨b.closing, [], rfl, first_of_bracket (by cases b <;> decide) after⟩
  | symbol s =>
      cases s with
      | name n =>
          exact ⟨n.front, n.back, rfl, first_of_word n.letter.1 n.letter.2.1 n.letters h⟩
      | keyword text known => exact first_of_keyword (List.mem_cons_of_mem _ known) h
      | number text number =>
          obtain ⟨c, more, htext, -, hfirst⟩ := number.first
          exact ⟨c, more, htext, hfirst after h⟩
      | rune body quoted => exact ⟨_, _, rfl, first_of_quote (.inr rfl) quoted⟩
      | string body quoted => exact ⟨_, _, rfl, first_of_quote (.inl rfl) quoted⟩
      | raw body unclosed => exact ⟨_, _, rfl, first_of_backquote unclosed⟩
      | operator text known => exact first_of_operator known h

/-! ## Gaps -/

/-- A lexeme that is skipped goes into the gap. -/
lemma looks_scan_trivia {c : Char} (more : List Char) {after : List Char} (kind : LexemeKind)
    (hfirst : first c (more ++ after) = (kind, more.length)) (hkind : Token.isTrivia kind)
    (gap : List Char) :
    looks gap (lexis.scan (c :: (more ++ after))) = looks (gap ++ c :: more) (lexis.scan after) := by
  rw [lexis.scan_append hfirst, looks, if_pos hkind]

/-- A blank is read with all that follow it, and goes into the gap as if it stood alone. -/
lemma looks_blank {c : Char} (hc : Text.isSpacing c) (gap rest : List Char) :
    looks gap (lexis.scan (c :: rest)) = looks (gap ++ [c]) (lexis.scan rest) := by
  have hrun : ∀ more after : List Char, (∀ x ∈ more, Text.isSpacing x) →
      (∀ x ∈ after.head?, ¬ Text.isSpacing x) → ∀ d : Char, Text.isSpacing d →
      ∀ g, looks g (lexis.scan (d :: (more ++ after))) = looks (g ++ d :: more) (lexis.scan after) := by
    intro more after hmore hafter d hd g
    refine looks_scan_trivia more .blank ?_ rfl g
    rw [first_of_blank hd, runLength_append hmore hafter]
  have hsplit := List.takeWhile_append_dropWhile (p := Text.isSpacing) (l := rest)
  have hfront : ∀ x ∈ rest.takeWhile Text.isSpacing, Text.isSpacing x :=
    fun x hx => List.mem_takeWhile_imp hx
  have hback : ∀ x ∈ (rest.dropWhile Text.isSpacing).head?, ¬ Text.isSpacing x := by
    intro x hx
    have := List.head?_dropWhile_not Text.isSpacing rest
    rw [hx] at this
    simpa using this
  have hleft := hrun _ _ hfront hback c hc gap
  rw [hsplit] at hleft
  rw [hleft]
  cases hfirst : rest.takeWhile Text.isSpacing with
  | nil =>
      rw [hfirst, List.nil_append] at hsplit
      rw [hsplit]
  | cons d more =>
      rw [hfirst] at hfront hsplit
      obtain ⟨hd, hmore⟩ := List.forall_mem_cons.mp hfront
      have hright := hrun more _ hmore hback d hd (gap ++ [c])
      rw [← List.cons_append, hsplit] at hright
      rw [hright, List.append_assoc, List.singleton_append]

/-- A comment through the end of the line is skipped up to there. -/
lemma looks_line {body : List Char} (hbody : '\n' ∉ body) (after : List Char)
    (hafter : ∀ x ∈ after.head?, x = '\n') (gap : List Char) :
    looks gap (lexis.scan ('/' :: '/' :: (body ++ after)))
      = looks (gap ++ '/' :: '/' :: body) (lexis.scan after) := by
  refine looks_scan_trivia ('/' :: body) .comment ?_ rfl gap
  have hline : '\n' ∉ '/' :: body := by
    rw [List.mem_cons, not_or]
    exact ⟨by decide, hbody⟩
  rw [← lineLength_append hline hafter]
  rfl

/-- **A trivium goes into the gap.** -/
lemma looks_trivium (t : Trivium) (gap after : List Char) :
    looks gap (lexis.scan (t.text ++ after)) = looks (gap ++ t.text) (lexis.scan after) := by
  cases t with
  | blank c spacing => exact looks_blank spacing gap after
  | line body inLine =>
      -- the line feed is no part of the comment that is read, but a blank behind it
      have hfeed : Text.isSpacing '\n' := by decide
      have hcomment := looks_line inLine ('\n' :: after) (by simp) gap
      rw [looks_blank hfeed] at hcomment
      simpa [Trivium.text] using hcomment
  | general body unclosed =>
      have hthrough : throughLength ['*', '/'] (body ++ '*' :: '/' :: after) = body.length + 2 :=
        throughLength_append after (by simp) ((infix_append_left (by decide)).not.mpr unclosed)
      have hcomment : looks gap (lexis.scan ('/' :: ('*' :: (body ++ ['*', '/']) ++ after)))
          = looks (gap ++ '/' :: '*' :: (body ++ ['*', '/'])) (lexis.scan after) := by
        refine looks_scan_trivia ('*' :: (body ++ ['*', '/'])) .comment ?_ rfl gap
        have hlength : ('*' :: (body ++ ['*', '/'])).length
            = 1 + throughLength ['*', '/'] (body ++ '*' :: '/' :: after) := by
          rw [hthrough, List.length_cons, List.length_append]
          simp only [List.length_cons, List.length_nil]
          omega
        rw [hlength, List.cons_append, List.append_assoc]
        rfl
      exact hcomment

/-- **A gap is skipped.** -/
lemma looks_gap : ∀ (g : Gap) (gap after : List Char),
    looks gap (lexis.scan (g.text ++ after)) = looks (gap ++ g.text) (lexis.scan after)
  | [], gap, after => by simp [Gap.text]
  | t :: g, gap, after => by
      have htext : Gap.text (t :: g) = t.text ++ Gap.text g := List.flatMap_cons
      rw [htext, List.append_assoc, looks_trivium, looks_gap g, List.append_assoc]

lemma looks_ending (e : Ending) (gap : List Char) : looks gap (lexis.scan e.text) = [] := by
  have hnil : ∀ g, looks g (lexis.scan []) = [] := by
    intro g
    rw [Lexis.scan]
    rfl
  rw [Ending.text, looks_gap]
  cases hcomment : e.comment with
  | none => exact hnil _
  | some body =>
      have hline := looks_line (e.inLine body hcomment) [] (by simp) (gap ++ e.gap.text)
      rw [List.append_nil] at hline
      rw [hline, hnil]

/-! ## Pieces -/

/-- A piece as a token, without its place. -/
def Piece.look (p : Piece) : List Char × LexemeKind × List Char := (p.gap.text, p.part.kind, p.part.text)

/-- Pieces as tokens, without their places, given what was skipped before the gap of the first. -/
def looksBehind (front : List Char) : List Piece → List (List Char × LexemeKind × List Char)
  | [] => []
  | p :: rest => (front ++ p.gap.text, p.part.kind, p.part.text) :: rest.map Piece.look

lemma looksBehind_nil (ps : List Piece) : looksBehind [] ps = ps.map Piece.look := by
  cases ps <;> rfl

/-- **A part is one token.** -/
lemma looks_part (p : Part) {after : List Char} (h : p.Ends after) (gap : List Char) :
    looks gap (lexis.scan (p.text ++ after)) = (gap, p.kind, p.text) :: looks [] (lexis.scan after) := by
  obtain ⟨c, more, htext, hfirst⟩ := first_of_part p h
  have hkind : Token.isTrivia p.kind = false := by
    cases p with
    | symbol s => cases s <;> rfl
    | _ => rfl
  rw [htext, List.cons_append, lexis.scan_append hfirst, looks, if_neg (by simp [hkind])]

/-- **Pieces that are kept apart are read one by one.** -/
theorem looks_pieces (e : Ending) : ∀ (ps : List Piece) (gap : List Char), Apart e.text ps →
    looks gap (lexis.scan (ps.flatMap Piece.text ++ e.text)) = looksBehind gap ps
  | [], gap, _ => looks_ending e gap
  | p :: rest, gap, ⟨hp, hrest⟩ => by
      rw [List.flatMap_cons, Piece.text, List.append_assoc, List.append_assoc, looks_gap,
        looks_part p.part hp, looks_pieces e rest [] hrest, looksBehind_nil]
      rfl

end Go

end FunctionChurn.Source
