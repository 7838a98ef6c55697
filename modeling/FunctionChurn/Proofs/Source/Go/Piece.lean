import FunctionChurn.Proofs.Source.Go.Scan

/-!
# Tokens and the pieces they are

The search asks tokens what they are: whether one is the word `func`, a name, a bracket, a semicolon, or
something that a statement can end with.  A token that is a piece of a file answers as the part of that
piece does.

* `Shows` says that a token is a piece, and `Shows.isTheWord_func`, `Shows.isName_iff`, … are the
  answers.
* `beginsStatement_iff`: the search lets statements begin where they do.
-/

namespace FunctionChurn.Source

namespace Go

/-! ## Tokens and parts -/

/-- **Whether a token is a piece**, given what was skipped before the gap of the piece. -/
def Shows (front : List Char) (t : Token) (p : Piece) : Prop :=
  t.look = (front ++ p.gap.text, p.part.kind, p.part.text)

section Shows

variable {front : List Char} {t : Token} {g : Gap} {p : Part}

lemma Shows.kind (h : Shows front t ⟨g, p⟩) : t.kind = p.kind := congrArg (fun x => x.2.1) h

lemma Shows.text (h : Shows front t ⟨g, p⟩) : t.text = p.text := congrArg (fun x => x.2.2) h

lemma Shows.gap (h : Shows front t ⟨g, p⟩) : t.gap = front ++ g.text := congrArg Prod.fst h

lemma Shows.isTheWord_func (h : Shows front t ⟨g, p⟩) : t.isTheWord "func" ↔ p = .func := by
  rw [Token.isTheWord, h.kind, h.text, Bool.and_eq_true, beq_iff_eq, beq_iff_eq]
  cases p with
  | func => simp [Part.kind, Part.text]
  | opening b => simp [Part.kind]
  | closing b => simp [Part.kind]
  | symbol s =>
      cases s with
      | name n =>
          have hfree := n.free "func" List.mem_cons_self
          simp only [Part.text, Symbol.text, Identifier.text, reduceCtorEq, iff_false, not_and]
          exact fun _ heq => hfree heq.symm
      | keyword k known =>
          have hother : ∀ k ∈ keywords, k.toList ≠ "func".toList := by decide
          simp only [Part.text, Symbol.text, reduceCtorEq, iff_false, not_and]
          exact fun _ => hother k known
      | number => simp [Part.kind]
      | rune => simp [Part.kind]
      | string => simp [Part.kind]
      | raw => simp [Part.kind]
      | operator => simp [Part.kind]

/-- All keywords are known to the search. -/
lemma any_keywords_iff {cs : List Char} :
    ((openKeywords ++ finalKeywords).any fun k => cs == k.toList)
      ↔ ∃ k ∈ "func" :: keywords, k.toList = cs := by
  have hknown : ∀ k, k ∈ openKeywords ++ finalKeywords ↔ k ∈ "func" :: keywords := by
    have hto : ∀ k ∈ openKeywords ++ finalKeywords, k ∈ "func" :: keywords := by decide
    have hfrom : ∀ k ∈ "func" :: keywords, k ∈ openKeywords ++ finalKeywords := by decide
    exact fun k => ⟨hto k, hfrom k⟩
  rw [List.any_eq_true]
  simp only [beq_iff_eq, hknown]
  constructor
  · rintro ⟨k, hk, heq⟩
    exact ⟨k, hk, heq.symm⟩
  · rintro ⟨k, hk, heq⟩
    exact ⟨k, hk, heq.symm⟩

lemma Shows.isName_iff (h : Shows front t ⟨g, p⟩) : isName t ↔ ∃ n, p = .symbol (.name n) := by
  rw [isName, Token.isWord, h.kind, h.text, Bool.and_eq_true, Bool.not_eq_true', ← Bool.not_eq_true,
    any_keywords_iff]
  cases p with
  | func => simp [Part.text]
  | opening b => simp [Part.kind]
  | closing b => simp [Part.kind]
  | symbol s =>
      cases s with
      | name n =>
          refine ⟨fun _ => ⟨n, rfl⟩, fun _ => ⟨rfl, ?_⟩⟩
          rintro ⟨k, hk, heq⟩
          exact n.free k hk heq
      | keyword k known =>
          constructor
          · rintro ⟨-, hfree⟩
            exact absurd ⟨k, List.mem_cons_of_mem _ known, rfl⟩ hfree
          · rintro ⟨n, hn⟩
            simp at hn
      | number => simp [Part.kind]
      | rune => simp [Part.kind]
      | string => simp [Part.kind]
      | raw => simp [Part.kind]
      | operator => simp [Part.kind]

lemma Shows.isMark_iff (h : Shows front t ⟨g, p⟩) (mark : String) :
    t.isMark mark ↔ p.kind = .mark ∧ p.text = mark.toList := by
  rw [Token.isMark, h.kind, h.text, Bool.and_eq_true, beq_iff_eq, beq_iff_eq]

/-- No operator is written like a bracket. -/
lemma operator_ne_bracket {o : String} (ho : o ∈ operators) (b : Bracket) :
    o.toList ≠ [b.opening] ∧ o.toList ≠ [b.closing] := by
  have hall : ∀ o ∈ operators, ∀ b ∈ [Bracket.round, .square, .curly],
      o.toList ≠ [b.opening] ∧ o.toList ≠ [b.closing] := by decide
  exact hall o ho b (by cases b <;> decide)

lemma Shows.isMark_opening (h : Shows front t ⟨g, p⟩) {mark : String} {b : Bracket}
    (hmark : mark.toList = [b.opening]) : t.isMark mark ↔ p = .opening b := by
  rw [h.isMark_iff, hmark]
  cases p with
  | func => simp [Part.kind]
  | opening b' => cases b <;> cases b' <;> simp [Part.kind, Part.text, Bracket.opening]
  | closing b' => cases b <;> cases b' <;> simp [Part.text, Bracket.opening, Bracket.closing]
  | symbol s =>
      cases s with
      | operator o known => simp [Part.text, Symbol.text, (operator_ne_bracket known b).1]
      | _ => simp [Part.kind]

lemma Shows.isMark_closing (h : Shows front t ⟨g, p⟩) {mark : String} {b : Bracket}
    (hmark : mark.toList = [b.closing]) : t.isMark mark ↔ p = .closing b := by
  rw [h.isMark_iff, hmark]
  cases p with
  | func => simp [Part.kind]
  | opening b' => cases b <;> cases b' <;> simp [Part.text, Bracket.opening, Bracket.closing]
  | closing b' => cases b <;> cases b' <;> simp [Part.kind, Part.text, Bracket.closing]
  | symbol s =>
      cases s with
      | operator o known => simp [Part.text, Symbol.text, (operator_ne_bracket known b).2]
      | _ => simp [Part.kind]

lemma Shows.isMark_round (h : Shows front t ⟨g, p⟩) : t.isMark "(" ↔ p = .opening .round :=
  h.isMark_opening rfl

lemma exists_bracket_iff {P : Bracket → Prop} : (∃ b, P b) ↔ (P .round ∨ P .square) ∨ P .curly := by
  constructor
  · rintro ⟨b, hb⟩
    cases b with
    | round => exact .inl (.inl hb)
    | square => exact .inl (.inr hb)
    | curly => exact .inr hb
  · rintro ((hb | hb) | hb) <;> exact ⟨_, hb⟩

lemma Shows.opens_iff (h : Shows front t ⟨g, p⟩) : Forest.opens t ↔ ∃ b, p = .opening b := by
  simp only [Forest.opens, Bool.or_eq_true, exists_bracket_iff]
  rw [h.isMark_opening (b := .round) rfl, h.isMark_opening (b := .square) rfl,
    h.isMark_opening (b := .curly) rfl]

lemma Shows.closes_iff (h : Shows front t ⟨g, p⟩) : Forest.closes t ↔ ∃ b, p = .closing b := by
  simp only [Forest.closes, Bool.or_eq_true, exists_bracket_iff]
  rw [h.isMark_closing (b := .round) rfl, h.isMark_closing (b := .square) rfl,
    h.isMark_closing (b := .curly) rfl]

/-- Brackets of one shape are a pair. -/
lemma pairs_of_shows {front front' : List Char} {o c : Token} {g g' : Gap} {b : Bracket}
    (ho : Shows front o ⟨g, .opening b⟩) (hc : Shows front' c ⟨g', .closing b⟩) :
    Forest.pairs o c := by
  have hopening : ∀ mark : String, mark.toList = [b.opening] → o.isMark mark :=
    fun mark hmark => (ho.isMark_opening hmark).mpr rfl
  have hclosing : ∀ mark : String, mark.toList = [b.closing] → c.isMark mark :=
    fun mark hmark => (hc.isMark_closing hmark).mpr rfl
  simp only [Forest.pairs, Bool.or_eq_true, Bool.and_eq_true]
  cases b with
  | round => exact .inl (.inl ⟨hopening "(" rfl, hclosing ")" rfl⟩)
  | square => exact .inl (.inr ⟨hopening "[" rfl, hclosing "]" rfl⟩)
  | curly => exact .inr ⟨hopening "\x7b" rfl, hclosing "\x7d" rfl⟩

lemma Shows.isMark_semicolon (h : Shows front t ⟨g, p⟩) : t.isMark ";" ↔ p.IsSemicolon := by
  rw [h.isMark_iff]
  cases p with
  | func => simp [Part.kind, Part.IsSemicolon]
  | opening b => cases b <;> simp [Part.text, Bracket.opening, Part.IsSemicolon]
  | closing b => cases b <;> simp [Part.text, Bracket.closing, Part.IsSemicolon]
  | symbol s =>
      cases s with
      | operator o known =>
          simp only [Part.kind, Part.text, Symbol.text, Part.IsSemicolon, String.toList_inj, true_and]
      | _ => simp [Part.kind, Part.IsSemicolon]

/-- **The tokens that a statement can end with.** -/
lemma Shows.endsStatement_iff (h : Shows front t ⟨g, p⟩) : endsStatement t ↔ p.Finishes := by
  rw [endsStatement, h.kind]
  cases p with
  | func =>
      simp only [Part.kind, h.text, Part.Finishes]
      decide
  | opening b =>
      simp only [Part.kind, Bool.or_eq_true, h.closes_iff, h.isMark_iff, Part.Finishes]
      cases b <;> simp [Part.text, Bracket.opening]
  | closing b =>
      simp only [Part.kind, Bool.or_eq_true, h.closes_iff, Part.Finishes]
      simp
  | symbol s =>
      cases s with
      | name n =>
          have hnone : ¬ openKeywords.any fun k => (Part.symbol (.name n)).text == k.toList := by
            intro hany
            obtain ⟨k, hk, heq⟩ := List.any_eq_true.mp hany
            have hknown : ∀ k ∈ openKeywords, k ∈ "func" :: keywords := by decide
            exact n.free k (hknown k hk) (beq_iff_eq.mp heq).symm
          simp only [Part.kind, h.text, Part.Finishes, Bool.not_eq_true', hnone]
      | keyword k known =>
          have hall : ∀ k ∈ keywords, (!openKeywords.any fun o => k.toList == o.toList)
              ↔ k ∈ ["break", "continue", "fallthrough", "return"] := by decide
          simp only [Part.kind, h.text, Part.Finishes, Part.text, Symbol.text]
          exact hall k known
      | operator o known =>
          have hall : ∀ o ∈ operators, (o.toList = "++".toList ∨ o.toList = "--".toList)
              ↔ o ∈ ["++", "--"] := by decide
          simp only [Part.kind, Bool.or_eq_true, h.closes_iff, h.isMark_iff, Part.Finishes]
          rw [← hall o known]
          simp [Part.text, Symbol.text]
      | number => simp [Part.kind, Part.Finishes]
      | rune => simp [Part.kind, Part.Finishes]
      | string => simp [Part.kind, Part.Finishes]
      | raw => simp [Part.kind, Part.Finishes]

/-- **Statements begin where the search lets them begin**, if nothing skipped before the gap ends a
line. -/
lemma beginsStatement_iff {previous : Option Token} {before : Option Part}
    (hprevious : Option.Rel (fun u q => ∃ front g, Shows front u ⟨g, q⟩) previous before)
    (h : Shows front t ⟨g, p⟩) (hfront : '\n' ∉ front) :
    beginsStatement previous t ↔ Begins before g := by
  cases hprevious with
  | none => exact ⟨fun _ => trivial, fun _ => rfl⟩
  | some hu =>
      obtain ⟨front', g', hu⟩ := hu
      have hline : t.startsLine ↔ '\n' ∈ g.text := by
        rw [Token.startsLine, h.gap, List.contains_iff_mem, List.mem_append]
        exact or_iff_right hfront
      rw [beginsStatement, Bool.or_eq_true, Bool.and_eq_true, hu.isMark_semicolon,
        hu.endsStatement_iff, hline]
      rfl

end Shows

end Go

end FunctionChurn.Source
