import FunctionChurn.Proofs.Source.Go.Syntax
import Mathlib.Data.List.Basic
import Mathlib.Data.List.TakeWhile
import Mathlib.Data.List.Infix
import Mathlib.Tactic.Common

/-!
# Reading what was written

The files of a language are described by what they are written with: parts that matter, with gaps
between them.  This is what the descriptions of all languages have in common, and the way back from a
text to its parts.

* The lemmas on lengths and on characters say how far the stretches of a text go on.
* `Lexis.visible` are the lexemes of a text that matter.
* `Script.Part` is a part as a scan meets it, `Script.Piece` a symbol of a language with the gap before
  it, and `Script.Apart` says that symbols are kept apart.
* **`Script.visible_pieces`**: pieces that are kept apart are read one by one.

A part is read by itself only where it ends: a word goes on over letters, and a slash before another one
is a comment.  So each part says itself before which texts it ends.
-/

namespace FunctionChurn.Source

/-! ## Lengths

Each kind of lexeme goes on to where it ends, whatever stands behind it. -/

lemma runLength_append {p : Char → Bool} {more after : List Char} (h : ∀ c ∈ more, p c)
    (hafter : ∀ c ∈ after.head?, ¬ p c) : runLength p (more ++ after) = more.length := by
  have hnone : after.takeWhile p = [] := by
    cases after with
    | nil => rfl
    | cons c rest => exact List.takeWhile_cons_of_neg (hafter c rfl)
  rw [runLength, List.takeWhile_append_of_pos h, hnone, List.append_nil]

lemma drop_runLength (p : Char → Bool) (cs : List Char) : cs.drop (runLength p cs) = cs.dropWhile p := by
  conv_lhs => arg 2; rw [← List.takeWhile_append_dropWhile (p := p) (l := cs)]
  exact List.drop_left

/-- The last of two lists is that of the second, if it is not empty. -/
lemma getLastD_append {α : Type} : ∀ (as bs : List α) (a : α),
    (as ++ bs).getLastD a = bs.getLastD (as.getLastD a)
  | [], _, _ => rfl
  | a :: as, bs, _ => by
      rw [List.cons_append, List.getLastD_cons, List.getLastD_cons, getLastD_append as bs a]

lemma lineLength_append {body after : List Char} (h : '\n' ∉ body)
    (hafter : ∀ c ∈ after.head?, c = '\n') : lineLength (body ++ after) = body.length := by
  refine runLength_append (fun c hc => ?_) fun c hc => ?_
  · have hne : c ≠ '\n' := by
      rintro rfl
      exact h hc
    simpa using hne
  · simp [hafter c hc]

/-- **A text is ended by the first closing mark behind it**, if the mark does not stand in it and does
not begin in it either. -/
lemma throughLength_append {stop : List Char} :
    ∀ {body : List Char} (after : List Char), stop ≠ [] → ¬ stop <:+: body ++ stop.dropLast →
      throughLength stop (body ++ (stop ++ after)) = body.length + stop.length
  | [], after, hne, _ => by
      cases stop with
      | nil => exact absurd rfl hne
      | cons c rest =>
          have hfront : (c :: rest).isPrefixOf ((c :: rest) ++ after) :=
            List.isPrefixOf_iff_prefix.mpr (List.prefix_append _ _)
          rw [List.nil_append, List.cons_append, throughLength, ← List.cons_append, if_pos hfront]
          simp
  | c :: body, after, hne, h => by
      rw [List.cons_append, List.infix_cons_iff, not_or] at h
      have hnot : ¬ stop.isPrefixOf (c :: (body ++ (stop ++ after))) := by
        rw [List.isPrefixOf_iff_prefix]
        intro hfront
        -- a mark that begins at `c` is no longer than `c`, `body` and all but the last of the next mark
        have hlength : stop.length ≤ (c :: (body ++ stop.dropLast)).length := by
          simp only [List.length_cons, List.length_append, List.length_dropLast]
          omega
        have hshort : c :: (body ++ stop.dropLast) <+: c :: (body ++ (stop ++ after)) := by
          rw [List.cons_prefix_cons]
          exact ⟨rfl, (List.prefix_append_right_inj body).mpr
            (stop.dropLast_prefix.trans (List.prefix_append stop after))⟩
        exact h.1 (List.prefix_of_prefix_length_le hfront hshort hlength)
      rw [List.cons_append, throughLength, if_neg hnot, throughLength_append after hne h.2,
        List.length_cons]
      omega

/-- A mark of two different characters does not begin with its own end. -/
lemma infix_append_left {a b : Char} (hab : a ≠ b) :
    ∀ {body : List Char}, [a, b] <:+: body ++ [a] ↔ [a, b] <:+: body
  | [] => by simp [List.infix_cons_iff]
  | c :: body => by
      rw [List.cons_append, List.infix_cons_iff, List.infix_cons_iff, infix_append_left hab]
      refine or_congr_left ?_
      cases body with
      | nil => simp [hab.symm]
      | cons d body => simp

lemma quotedLength_append {mark : Char} (hmark : mark ≠ '\\') {body after : List Char}
    (h : Go.IsQuoted mark body) : quotedLength mark (body ++ mark :: after) = body.length + 1 := by
  induction h with
  | nil =>
      cases after with
      | nil => rfl
      | cons d rest => simp [quotedLength]
  | @plain c rest hquote hbackslash hrest ih =>
      cases hmore : rest ++ mark :: after with
      | nil => simp at hmore
      | cons d more =>
          rw [hmore] at ih
          rw [List.cons_append, hmore, quotedLength, if_neg hquote, if_neg hbackslash, ih,
            List.length_cons]
          omega
  | @escape c rest hrest ih =>
      rw [List.cons_append, List.cons_append, quotedLength, if_neg hmark.symm, if_pos rfl, ih,
        List.length_cons, List.length_cons]
      omega

/-! ## Characters -/

/-- What is visible in ASCII is no blank. -/
lemma not_isSpacing_of_visible {c : Char} (h : 32 < c.toNat) (h' : c.toNat < 127) :
    Text.isSpacing c = false := by
  have hne : ∀ d : Char, 127 ≤ d.toNat → c ≠ d := by
    rintro d hd rfl
    omega
  have hle : ∀ d : Char, 127 ≤ d.toNat → ¬ d ≤ c := by
    intro d hd hdc
    have : d.toNat ≤ c.toNat := hdc
    omega
  have hspace : c ≠ ' ' := by
    rintro rfl
    exact absurd h (by decide)
  have hcontrol : ¬ c ≤ '\r' := by
    intro hc
    have : c.toNat ≤ 13 := hc
    omega
  simp [Text.isSpacing, Text.isWideSpacing, hspace, hcontrol, hne, hle]

/-- The letters and digits of ASCII, by their code points. -/
lemma isAlphanum_iff {c : Char} :
    c.isAlphanum ↔ (65 ≤ c.toNat ∧ c.toNat ≤ 90) ∨ (97 ≤ c.toNat ∧ c.toNat ≤ 122)
      ∨ (48 ≤ c.toNat ∧ c.toNat ≤ 57) := by
  have hranges : c.isAlphanum = ((decide (65 ≤ c.val ∧ c.val ≤ 90)
      || decide (97 ≤ c.val) && decide (c.val ≤ 122)) || decide (48 ≤ c.val) && decide (c.val ≤ 57)) :=
    rfl
  rw [hranges]
  simp only [Bool.or_eq_true, Bool.and_eq_true, decide_eq_true_eq, UInt32.le_iff_toNat_le, or_assoc]
  exact Iff.rfl

lemma not_isSpacing_of_isWordChar {c : Char} (h : isWordChar c) : Text.isSpacing c = false := by
  simp only [isWordChar, Bool.or_eq_true, Bool.and_eq_true] at h
  rcases h with (h | h) | h
  · rw [isAlphanum_iff] at h
    exact not_isSpacing_of_visible (by omega) (by omega)
  · rw [beq_iff_eq] at h
    subst h
    decide
  · simpa using h.2

lemma isWordChar_of_isDigit {c : Char} (h : c.isDigit) : isWordChar c := by
  simp [isWordChar, Char.isAlphanum, h]

/-! ## Lexemes that matter -/

namespace Lexis

variable (l : Lexis)

lemma scan_append {c : Char} {more after : List Char} {kind : LexemeKind}
    (h : l.first c (more ++ after) = (kind, more.length)) :
    l.scan (c :: (more ++ after)) = ⟨kind, c :: more⟩ :: l.scan after := by
  rw [scan, h, List.take_left, List.drop_left]

/-- **The lexemes of a text that matter**: all but blanks and comments. -/
def visible (cs : List Char) : List Lexeme := (l.scan cs).filter fun x => !Token.isTrivia x.kind

lemma visible_nil : l.visible [] = [] := by
  rw [visible, scan]
  rfl

/-- A lexeme that matters is read, and reading goes on behind it. -/
lemma visible_append {c : Char} {more after : List Char} {kind : LexemeKind}
    (h : l.first c (more ++ after) = (kind, more.length)) (hkind : Token.isTrivia kind = false) :
    l.visible (c :: (more ++ after)) = ⟨kind, c :: more⟩ :: l.visible after := by
  rw [visible, l.scan_append h, List.filter_cons_of_pos (by simp [hkind])]
  rfl

/-- A lexeme that does not matter is passed over. -/
lemma visible_trivia {c : Char} {more after : List Char} {kind : LexemeKind}
    (h : l.first c (more ++ after) = (kind, more.length)) (hkind : Token.isTrivia kind) :
    l.visible (c :: (more ++ after)) = l.visible after := by
  rw [visible, l.scan_append h, List.filter_cons_of_neg (by simp [hkind])]
  rfl

/-- A blank is read with all that follow it, and passed over as if it stood alone. -/
lemma visible_blank
    (hblank : ∀ c rest, Text.isSpacing c → l.first c rest = (.blank, runLength Text.isSpacing rest))
    {c : Char} (hc : Text.isSpacing c) (rest : List Char) :
    l.visible (c :: rest) = l.visible rest := by
  have hrun : ∀ d more, Text.isSpacing d →
      l.visible (d :: more) = l.visible (more.dropWhile Text.isSpacing) := by
    intro d more hd
    have hsplit := List.takeWhile_append_dropWhile (p := Text.isSpacing) (l := more)
    have hread : l.first d (more.takeWhile Text.isSpacing ++ more.dropWhile Text.isSpacing)
        = (.blank, (more.takeWhile Text.isSpacing).length) := by
      rw [hblank d _ hd, hsplit]
      rfl
    rw [← l.visible_trivia hread rfl, hsplit]
  rw [hrun c rest hc]
  cases rest with
  | nil => rfl
  | cons d more =>
      by_cases hd : Text.isSpacing d
      · rw [List.dropWhile_cons_of_pos hd, hrun d more hd]
      · rw [List.dropWhile_cons_of_neg hd]

/-- **What stands only at the start of a file is skipped**: a byte order mark, and then a line for the
interpreter, if the language skips it. -/
lemma openingLength_front {marked : Bool} {shebang rest : List Char}
    (hmark : marked = false → (shebang ++ rest).head? ≠ some '\uFEFF')
    (hshebang : l.opening (shebang ++ rest) = shebang.length) :
    l.openingLength (((if marked then ['\uFEFF'] else []) ++ shebang) ++ rest)
      = ((if marked then ['\uFEFF'] else []) ++ shebang).length := by
  cases marked with
  | true =>
      have hskip : l.openingLength ('\uFEFF' :: (shebang ++ rest)) = 1 + l.opening (shebang ++ rest) := rfl
      rw [if_pos rfl, List.singleton_append, List.cons_append, hskip, hshebang, List.length_cons,
        Nat.add_comm]
  | false =>
      have hplain : l.openingLength (shebang ++ rest) = l.opening (shebang ++ rest) := by
        unfold openingLength
        split
        · next hstart => exact absurd (by rw [hstart, List.head?_cons]) (hmark rfl)
        · rfl
      rw [if_neg (by decide), List.nil_append, hplain, hshebang]

/-- **Whether a text is passed over**, whatever stands behind it. -/
def Skips (g : List Char) : Prop := ∀ after, l.visible (g ++ after) = l.visible after

lemma skips_flatMap {α : Type} {f : α → List Char} :
    ∀ {as : List α}, (∀ a ∈ as, l.Skips (f a)) → l.Skips (as.flatMap f)
  | [], _ => fun _ => rfl
  | a :: as, h => fun after => by
      obtain ⟨ha, has⟩ := List.forall_mem_cons.mp h
      rw [List.flatMap_cons, List.append_assoc, ha, skips_flatMap has]

end Lexis

/-! ## Parts and pieces -/

namespace Script

/-- **A part as a scan meets it.** -/
structure Part where
  kind : LexemeKind
  text : List Char
  /-- Whether the part ends before some text.  Before other texts it would be longer. -/
  ends : List Char → Bool

/-- The lexeme that a part is. -/
def Part.lexeme (p : Part) : Lexeme := ⟨p.kind, p.text⟩

/-- **Whether a part is read where it ends.** -/
def Part.Read (p : Part) (l : Lexis) : Prop :=
  Token.isTrivia p.kind = false ∧ ∀ after, p.ends after →
    ∃ c more, p.text = c :: more ∧ l.first c (more ++ after) = (p.kind, more.length)

/-- **A symbol of a language, with the gap before it.** -/
structure Piece (G S : Type) where
  gap : G
  symbol : S

section

variable {G S : Type} (gapText : G → List Char) (part : S → Part)

/-- A piece as it is written. -/
def Piece.text (p : Piece G S) : List Char := gapText p.gap ++ (part p.symbol).text

/-- Pieces as they are written. -/
def text (ps : List (Piece G S)) : List Char := ps.flatMap (Piece.text gapText part)

/-- **Whether pieces are kept apart**, by their gaps or by what they are. -/
def Apart (after : List Char) : List (Piece G S) → Bool
  | [] => true
  | p :: rest => (part p.symbol).ends (text gapText part rest ++ after) && Apart after rest

variable {gapText part} {l : Lexis}

/-- **Pieces that are kept apart are read one by one.** -/
theorem visible_pieces (hgap : ∀ g, l.Skips (gapText g)) (hpart : ∀ s, (part s).Read l)
    (after : List Char) :
    ∀ ps : List (Piece G S), Apart gapText part after ps →
      l.visible (text gapText part ps ++ after)
        = ps.map (fun p => (part p.symbol).lexeme) ++ l.visible after
  | [], _ => rfl
  | p :: rest, h => by
      obtain ⟨hends, hrest⟩ := Bool.and_eq_true_iff.mp h
      obtain ⟨hkind, hread⟩ := hpart p.symbol
      obtain ⟨c, more, htext, hfirst⟩ := hread _ hends
      rw [text, List.flatMap_cons, ← text, Piece.text, List.append_assoc, List.append_assoc, hgap,
        htext, List.cons_append, l.visible_append hfirst hkind, visible_pieces hgap hpart after rest
        hrest, List.map_cons, List.cons_append, Part.lexeme, htext]

end

end Script

end FunctionChurn.Source
