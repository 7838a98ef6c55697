import FunctionChurn.Source.Search
import Mathlib.Data.List.Pairwise
import Mathlib.Tactic.Common

/-!
# Occurrences come in the order of the file

A report looks at the functions of a file from front to back, so what a search gives has to stand in
the order of the file, and no place may be given twice.  Both are one statement: the byte offsets of
the occurrences grow strictly.

* `Token.pairwise_ofLexemes`: the tokens of a file begin at growing offsets, because a lexeme that
  is not skipped has at least one character.
* `Lua.namedIn_sublist`, `Rust.definedIn_sublist`, `Go.declaredAfter_sublist`: what a search gives
  begins where some of the tokens begin, in their order.  None of them is the first token, which is
  what lets the induction pass the word that announces a function.
* **`Language.pairwise_occurrences`** puts the two together.
-/

namespace FunctionChurn.Source

/-! ## Tokens -/

lemma byteLength_pos {cs : List Char} (h : cs ≠ []) : 0 < byteLength cs := by
  cases cs with
  | nil => exact absurd rfl h
  | cons c rest =>
      have := Char.utf8Size_pos c
      simp only [byteLength, List.foldr_cons]
      omega

/-- No lexeme of a scan is empty. -/
lemma Lexis.text_ne_nil_of_mem_scan (l : Lexis) (cs : List Char) :
    ∀ x ∈ l.scan cs, x.text ≠ [] := by
  fun_induction l.scan cs with
  | case1 => simp
  | case2 c rest ih =>
      intro x hx
      rcases List.mem_cons.mp hx with rfl | hx
      · simp
      · exact ih x hx

/-- Of the lexemes of a file only those that are skipped can be empty. -/
lemma Lexis.text_ne_nil_of_mem_lexemes (l : Lexis) (source : List Char) :
    ∀ x ∈ l.lexemes source, Token.isTrivia x.kind = false → x.text ≠ [] := by
  intro x hx hkind
  simp only [Lexis.lexemes, List.mem_cons] at hx
  rcases hx with rfl | hx
  · simp [Token.isTrivia] at hkind
  · exact l.text_ne_nil_of_mem_scan _ x hx

namespace Token

/-- No token begins before the place where its lexemes begin. -/
lemma le_offset_of_mem_place :
    ∀ (gap : List Char) (offset line : Nat) (xs : List Lexeme),
      ∀ t ∈ place gap offset line xs, offset ≤ t.offset
  | _, _, _, [], t, ht => by simp [place] at ht
  | gap, offset, line, x :: rest, t, ht => by
      simp only [place] at ht
      split at ht
      · have := le_offset_of_mem_place _ _ _ rest t ht
        omega
      · rcases List.mem_cons.mp ht with rfl | ht
        · exact Nat.le_refl _
        · have := le_offset_of_mem_place _ _ _ rest t ht
          omega

/-- **Tokens begin at growing offsets**, if the lexemes that are not skipped are not empty. -/
theorem pairwise_place :
    ∀ (gap : List Char) (offset line : Nat) (xs : List Lexeme),
      (∀ x ∈ xs, isTrivia x.kind = false → x.text ≠ []) →
      (place gap offset line xs).Pairwise fun t u => t.offset < u.offset
  | _, _, _, [], _ => by simp [place]
  | gap, offset, line, x :: rest, h => by
      have hrest : ∀ y ∈ rest, isTrivia y.kind = false → y.text ≠ [] :=
        fun y hy => h y (List.mem_cons_of_mem _ hy)
      simp only [place]
      split
      · exact pairwise_place _ _ _ rest hrest
      · next hkind =>
          refine List.pairwise_cons.mpr ⟨fun t ht => ?_, pairwise_place _ _ _ rest hrest⟩
          have hx := byteLength_pos (h x List.mem_cons_self (by simpa using hkind))
          have := le_offset_of_mem_place _ _ _ rest t ht
          dsimp only
          omega

/-- The tokens of a file begin at growing offsets. -/
theorem pairwise_ofLexemes (l : Lexis) (source : List Char) :
    (ofLexemes (l.lexemes source)).Pairwise fun t u => t.offset < u.offset :=
  pairwise_place _ _ _ _ (l.text_ne_nil_of_mem_lexemes source)

/-- What begins where some of the tokens begin, in their order, begins at growing offsets. -/
lemma pairwise_of_sublist {os : List Occurrence} {ts us : List Token}
    (h : (os.map Occurrence.offset).Sublist (us.tail.map Token.offset)) (hus : us.Sublist ts)
    (hts : ts.Pairwise fun t u => t.offset < u.offset) :
    os.Pairwise fun o p => o.offset < p.offset := by
  have hmap : (us.tail.map Token.offset).Pairwise (· < ·) :=
    List.pairwise_map.mpr (hts.sublist ((List.tail_sublist us).trans hus))
  exact List.pairwise_map.mp (hmap.sublist h)

end Token

/-! ## Lua -/

namespace Lua

/-- A separator of a path announces no function, and it names none. -/
lemma namedIn_cons_of_sep {name sep : Token} {rest : List Token}
    (h : sep.isMark "." || sep.isMark ":") : namedIn (name :: sep :: rest) = namedIn rest := by
  have hkind : sep.kind = .mark := by
    simp only [Token.isMark, Bool.or_eq_true, Bool.and_eq_true, beq_iff_eq] at h
    rcases h with h | h <;> exact h.1
  simp [namedIn, namedBy, Token.isTheWord, Token.isWord, hkind]

/-- The last name of a path stands before all functions that are named behind the path begins. -/
lemma lastName_cons_namedIn_sublist (name : Token) (rest : List Token)
    (ih : ∀ next us, next :: us <:+ name :: rest →
      (namedIn (next :: us)).Sublist (us.map (·.occurrence 0))) :
    ((lastName name rest).occurrence 0 :: namedIn (name :: rest)).Sublist
      ((name :: rest).map (·.occurrence 0)) := by
  fun_induction lastName name rest with
  | case1 name sep next rest h ih' =>
      rw [Bool.and_eq_true] at h
      rw [namedIn_cons_of_sep h.1]
      have hsuffix : next :: rest <:+ name :: sep :: next :: rest := ⟨[name, sep], rfl⟩
      have := ih' fun u us hu => ih u us (hu.trans hsuffix)
      exact this.trans ((hsuffix.sublist).map _)
  | case2 name sep next rest h =>
      exact (ih name (sep :: next :: rest) (List.suffix_refl _)).cons_cons _
  | case3 rest name _ =>
      exact (ih name rest (List.suffix_refl _)).cons_cons _

/-- **What a search gives are tokens of the file in their order**, and never the first one. -/
theorem namedIn_sublist (ts : List Token) :
    (namedIn ts).Sublist (ts.tail.map (·.occurrence 0)) := by
  induction hn : ts.length using Nat.strongRecOn generalizing ts with
  | ind n ih =>
    cases ts with
    | nil => simp [namedIn]
    | cons t rest =>
      have hrest : (namedIn rest).Sublist (rest.map (·.occurrence 0)) :=
        (ih rest.length (by simp [← hn]) rest rfl).trans ((List.tail_sublist rest).map _)
      simp only [namedIn, List.tail_cons]
      split
      · cases rest with
        | nil => simpa [namedBy] using hrest
        | cons name more =>
          simp only [namedBy]
          split
          · refine lastName_cons_namedIn_sublist name more fun next us hus => ?_
            exact ih (next :: us).length (by have := hus.length_le; simp at *; omega) _ rfl
          · exact hrest
      · exact hrest

end Lua

/-! ## Rust -/

namespace Rust

/-- Taking the token trees out of a forest leaves some of its tokens, in their order. -/
theorem tokens_codeBehind_sublist :
    ∀ (n : Nat) (f : Forest), (codeBehind n f).tokens.Sublist f.tokens
  | n, .nil => by simp [codeBehind]
  | n + 1, .leaf t rest => by
      rw [codeBehind, Forest.tokens]
      exact (tokens_codeBehind_sublist n rest).cons _
  | n + 1, .group o inner c rest => by
      rw [codeBehind, Forest.tokens]
      exact (((tokens_codeBehind_sublist n rest).cons c).trans
        (List.sublist_append_right inner.tokens _)).cons o
  | 0, .group o inner c rest => by
      rw [codeBehind, Forest.tokens, Forest.tokens]
      exact ((tokens_codeBehind_sublist 0 inner).append
        ((tokens_codeBehind_sublist 0 rest).cons_cons c)).cons_cons o
  | 0, .leaf t rest => by
      rw [codeBehind, Forest.tokens]
      split
      · next k _ => exact (tokens_codeBehind_sublist k rest).cons t
      · exact (tokens_codeBehind_sublist 0 rest).cons_cons t

/-- **What a search gives are tokens of the code in their order**, and never the first one. -/
theorem definedIn_sublist :
    ∀ f : Forest, (definedIn f).Sublist (f.tokens.tail.map (·.occurrence 0))
  | .nil => by simp [definedIn]
  | .leaf t rest => by
      have hrest := definedIn_sublist rest
      have hall := hrest.trans ((List.tail_sublist rest.tokens).map _)
      simp only [definedIn, Forest.tokens, List.tail_cons]
      split
      · cases rest with
        | nil => simp [definedBy, definedIn]
        | leaf name more =>
          simp only [definedBy]
          split
          · simpa [Forest.tokens] using hrest
          · exact hall
        | group o inner c more => simpa [definedBy] using hall
      · exact hall
  | .group o inner c rest => by
      have hinner := (definedIn_sublist inner).trans ((List.tail_sublist inner.tokens).map _)
      have hrest := (definedIn_sublist rest).trans ((List.tail_sublist rest.tokens).map _)
      simp only [definedIn, Forest.tokens, List.tail_cons, List.map_append, List.map_cons]
      exact hinner.append (hrest.cons _)

end Rust

/-! ## Go -/

namespace Go

/-- **What a `func` can declare**: nothing, a function, or a method with its receiver list. -/
theorem declaredBy_cases (begins : Bool) (f : Forest) :
    declaredBy begins f = []
      ∨ (∃ name rest, f = .leaf name rest ∧ declaredBy begins f = [name.occurrence nameGroup])
      ∨ ∃ o inner c name rest, f = .group o inner c (.leaf name rest)
          ∧ declaredBy begins f = [⟨receiverGroup, groupText o inner c, o.offset, o.line⟩,
              name.occurrence nameGroup] := by
  unfold declaredBy
  split
  · next name rest =>
      split
      · exact .inr (.inl ⟨name, rest, rfl, rfl⟩)
      · exact .inl rfl
  · next o inner c name params inner' c' rest =>
      split
      · exact .inr (.inr ⟨o, inner, c, name, _, rfl, rfl⟩)
      · exact .inl rfl
  · exact .inl rfl

/-- **What a search gives begins where tokens of the file begin**, in their order, and never at the
first one.  A receiver list is no token, but it begins at one. -/
theorem declaredAfter_sublist :
    ∀ (previous : Option Token) (f : Forest),
      ((declaredAfter previous f).map Occurrence.offset).Sublist (f.tokens.tail.map Token.offset)
  | _, .nil => by simp [declaredAfter]
  | previous, .group o inner c rest => by
      have hrest := declaredAfter_sublist (some c) rest
      simp only [declaredAfter, Forest.tokens, List.tail_cons, List.map_append, List.map_cons]
      exact ((hrest.trans ((List.tail_sublist rest.tokens).map _)).cons _).trans
        (List.sublist_append_right _ _)
  | previous, .leaf t rest => by
      have hrest := declaredAfter_sublist (some t) rest
      have hall := hrest.trans ((List.tail_sublist rest.tokens).map _)
      simp only [declaredAfter, Forest.tokens, List.tail_cons, List.map_append]
      split
      · rcases declaredBy_cases (beginsStatement previous t) rest with
          hby | ⟨name, more, rfl, hby⟩ | ⟨o, inner, c, name, more, rfl, hby⟩
        · simpa [hby] using hall
        · simpa [hby, Forest.tokens, Token.occurrence] using hrest
        · -- the search goes on at the name, so the receiver list itself gives nothing more
          have hname := declaredAfter_sublist (some c) (.leaf name more)
          rw [hby]
          simp only [declaredAfter, Forest.tokens, List.map_cons, List.map_append, List.map_nil,
            List.cons_append, List.nil_append, List.tail_cons, Token.occurrence] at hname ⊢
          exact ((hname.cons_cons name.offset).cons c.offset).trans
            (List.sublist_append_right _ _) |>.cons_cons o.offset
      · simpa using hall

end Go

end FunctionChurn.Source

namespace FunctionChurn

open Source

/-! ## All languages -/

lemma offset_map_occurrence (ts : List Token) :
    (ts.map (·.occurrence 0)).map Occurrence.offset = ts.map Token.offset := by
  simp [Token.occurrence, Function.comp_def]

/-- **The occurrences in a file begin at growing offsets**: they stand in the order of the file, and
none is given twice. -/
theorem Language.pairwise_occurrences (l : Language) (source : List Char) :
    (l.occurrences source).Pairwise fun o p => o.offset < p.offset := by
  cases l with
  | go =>
      refine Token.pairwise_of_sublist (Go.declaredAfter_sublist none _) (List.Sublist.refl _) ?_
      rw [Forest.tokens_ofTokens]
      exact Token.pairwise_ofLexemes Go.lexis source
  | rust =>
      have hcode := Rust.tokens_codeBehind_sublist 0
        (Forest.ofTokens (Token.ofLexemes (Rust.lexis.lexemes source)))
      rw [Forest.tokens_ofTokens] at hcode
      have h := (Rust.definedIn_sublist (Rust.code (Forest.ofTokens
        (Token.ofLexemes (Rust.lexis.lexemes source))))).map Occurrence.offset
      rw [offset_map_occurrence] at h
      exact Token.pairwise_of_sublist h hcode (Token.pairwise_ofLexemes Rust.lexis source)
  | lua =>
      have h := (Lua.namedIn_sublist (Token.ofLexemes (Lua.lexis.lexemes source))).map
        Occurrence.offset
      rw [offset_map_occurrence] at h
      exact Token.pairwise_of_sublist h (List.Sublist.refl _)
        (Token.pairwise_ofLexemes Lua.lexis source)
  | unsupported => simp [Language.occurrences]

end FunctionChurn
