import FunctionChurn.Proofs.Source.Rust.Syntax

/-!
# Reading Rust

A scan gets back the symbols and the gaps that a file of Rust is written with.

* `commentLength_append`: a comment goes on to its own closing mark, past those of the comments in it.
* `first_of_word`, `first_of_rawString`, `apostropheLength_lifetime`, … are the lexical rules, one for each
  kind of symbol.  A letter before a quote or a hash sign, and an apostrophe, could begin several kinds.
* **`Symbol.read`**: every symbol is read to where it ends.
* **`Gap.skips`** and `Ending.visible`: gaps are passed over.
-/

namespace FunctionChurn.Source.Rust

open Go (IsQuoted)
open scoped Go

/-! ## Gaps -/

lemma first_of_blank (c : Char) (rest : List Char) (h : Text.isSpacing c) :
    first c rest = (.blank, runLength Text.isSpacing rest) := by
  unfold first
  rw [if_pos h]

/-- A character behind no mark leads on. -/
lemma commentLength_plain (depth : Nat) (c : Char) (cs : List Char) :
    commentLength .plain depth (c :: cs) = 1 + commentLength (.after c) depth cs := by
  rw [commentLength]

/-- A slash takes the next character along, and a star behind it opens a comment. -/
lemma commentLength_slash (depth : Nat) (c : Char) (cs : List Char) :
    commentLength .plain depth ('/' :: c :: cs)
      = 2 + commentLength .plain (if c = '*' then depth + 1 else depth) cs := by
  have hafter : CommentState.after '/' = .slash := rfl
  rw [commentLength_plain, hafter, commentLength, ← Nat.add_assoc]

/-- A closing mark leads out of the innermost comment. -/
lemma commentLength_close (depth : Nat) (cs : List Char) :
    commentLength .plain (depth + 1) ('*' :: '/' :: cs) = 2 + commentLength .plain depth cs := by
  have hafter : CommentState.after '*' = .star := rfl
  rw [commentLength_plain, hafter, commentLength, if_pos rfl, ← Nat.add_assoc]

/-- A star that no slash follows is a character like any other. -/
lemma commentLength_star (depth : Nat) {cs : List Char} (h : cs.head? ≠ some '/') :
    commentLength .plain depth ('*' :: cs) = 1 + commentLength .plain depth cs := by
  have hafter : CommentState.after '*' = .star := rfl
  rw [commentLength_plain, hafter]
  congr 1
  cases cs with
  | nil => rfl
  | cons c cs =>
      have hc : c ≠ '/' := fun heq => h (by rw [heq, List.head?_cons])
      simp only [commentLength, CommentState.after, if_neg hc]

/-- **A comment goes on to its own closing mark.** -/
lemma commentLength_append {body : List Char} (h : IsComment body) :
    ∀ (depth : Nat) (after : List Char),
      commentLength .plain depth (body ++ '*' :: '/' :: after)
        = body.length + commentLength .plain depth ('*' :: '/' :: after) := by
  induction h with
  | nil => simp
  | @plain c rest hslash hstar _ ih =>
      intro depth after
      have hafter : CommentState.after c = .plain := by
        rw [CommentState.after, if_neg hslash, if_neg hstar]
      rw [List.cons_append, commentLength_plain, hafter, ih, List.length_cons]
      omega
  | @slash c rest hstar _ ih =>
      intro depth after
      rw [List.cons_append, List.cons_append, commentLength_slash, if_neg hstar, ih, List.length_cons,
        List.length_cons]
      omega
  | @star rest hhead _ ih =>
      intro depth after
      have hnot : (rest ++ '*' :: '/' :: after).head? ≠ some '/' := by
        cases rest with
        | nil => simp
        | cons c rest => exact hhead
      rw [List.cons_append, commentLength_star depth hnot, ih, List.length_cons]
      omega
  | @nested body rest _ _ ihbody ihrest =>
      intro depth after
      -- the comment inside is read one level deeper, and its closing mark leads back
      rw [List.cons_append, List.cons_append, List.append_assoc, List.cons_append, List.cons_append,
        commentLength_slash, if_pos rfl, ihbody, commentLength_close, ihrest]
      simp only [List.length_cons, List.length_append]
      omega

/-- A comment to the end of its line is read up to there. -/
lemma first_of_line {body : List Char} (after : List Char) (hline : '\n' ∉ body)
    (hafter : ∀ c ∈ after.head?, c = '\n') :
    lexis.first '/' ('/' :: body ++ after) = (.comment, ('/' :: body).length) := by
  have hslash : '\n' ∉ '/' :: body := by
    rw [List.mem_cons, not_or]
    exact ⟨by decide, hline⟩
  rw [← lineLength_append hslash hafter]
  rfl

/-- **A trivium is passed over.** -/
lemma Trivium.skips (t : Trivium) : lexis.Skips t.text := by
  intro after
  have hfeed : Text.isSpacing '\n' := by decide
  cases t with
  | blank c spacing => exact lexis.visible_blank first_of_blank spacing after
  | line body inLine =>
      -- the line feed is no part of the comment that is read, but a blank behind it
      have hread := lexis.visible_trivia (first_of_line ('\n' :: after) inLine (by simp)) rfl
      rw [lexis.visible_blank first_of_blank hfeed] at hread
      simpa [Trivium.text] using hread
  | block body comment =>
      have hlength : commentLength .plain 0 (body ++ '*' :: '/' :: after) = body.length + 2 :=
        commentLength_append comment 0 after
      have hcomment : lexis.first '/' ('*' :: (body ++ ['*', '/']) ++ after)
          = (.comment, ('*' :: (body ++ ['*', '/'])).length) := by
        have hall : ('*' :: (body ++ ['*', '/'])).length
            = 1 + commentLength .plain 0 (body ++ '*' :: '/' :: after) := by
          rw [hlength, List.length_cons, List.length_append]
          simp only [List.length_cons, List.length_nil]
          omega
        rw [hall, List.cons_append, List.append_assoc]
        rfl
      exact lexis.visible_trivia hcomment rfl

/-- **A gap is passed over.** -/
theorem Gap.skips (g : Gap) : lexis.Skips g.text := lexis.skips_flatMap fun t _ => t.skips

/-- The end of a file is passed over. -/
lemma Ending.visible (e : Ending) : lexis.visible e.text = [] := by
  rw [Ending.text, Gap.skips]
  cases hcomment : e.comment with
  | none => exact lexis.visible_nil
  | some body =>
      have hread := lexis.visible_trivia (first_of_line [] (e.inLine body hcomment) (by simp)) rfl
      rwa [List.append_nil, lexis.visible_nil] at hread

/-! ## Words -/

/-- A letter is none of the characters that lexemes other than words begin or go on with. -/
lemma ne_of_isWordChar {c d : Char} (hc : isWordChar c) (hd : isWordChar d = false) : c ≠ d := by
  rintro rfl
  simp [hc] at hd

/-- No raw string goes on with a letter, with or without a hash sign before it. -/
lemma not_opensRawString_of_isWordChar {c : Char} (hc : isWordChar c) (rest : List Char) :
    opensRawString (c :: rest) = false ∧ opensRawString ('#' :: c :: rest) = false := by
  have hhash : c ≠ '#' := ne_of_isWordChar hc (by decide)
  have hquote : c ≠ '"' := ne_of_isWordChar hc (by decide)
  simp [opensRawString, hhash, hquote]

lemma rawLength?_eq_none {cs : List Char} (h : opensRawString cs = false) : rawLength? cs = none := by
  have hdrop : cs.drop (runLength (fun x => decide (x = '#')) cs) = cs.dropWhile (· == '#') :=
    drop_runLength _ cs
  rw [opensRawString] at h
  unfold rawLength?
  dsimp only
  rw [hdrop]
  split
  · next hrest => simp [hrest] at h
  · rfl

/-- Behind the letters that a raw string may begin with, no raw string begins where none is opened, and
none begins behind other letters. -/
lemma rawLength?_of_letters {w : String} {front more after : List Char} (hw : w ∈ rawFronts)
    (htext : w.toList = front) (hmore : ∀ x ∈ more, isWordChar x)
    (hstring : (rawFronts.any (fun w => w.toList == front ++ more) && opensRawString after) = false) :
    rawLength? (more ++ after) = none := by
  refine rawLength?_eq_none ?_
  cases more with
  | cons x more => exact (not_opensRawString_of_isWordChar (hmore x List.mem_cons_self) _).1
  | nil =>
      have hany : rawFronts.any (fun w => w.toList == front ++ []) = true :=
        List.any_eq_true.mpr ⟨w, hw, by simp [htext]⟩
      rwa [hany, Bool.true_and] at hstring

/-- A letter that stands behind others is one of the word. -/
lemma append_eq_cons_of_isWordChar {d : Char} {more after rest : List Char} (hd : isWordChar d)
    (hafter : after.head?.any isWordChar = false) (h : more ++ after = d :: rest) :
    ∃ others, more = d :: others ∧ others ++ after = rest := by
  cases more with
  | nil =>
      rw [List.nil_append] at h
      simp [h, hd] at hafter
  | cons x others =>
      obtain ⟨rfl, hrest⟩ := List.cons.inj h
      exact ⟨others, rfl, hrest⟩

/-- **A word is no raw string**, unless it is one of the fronts of raw strings and one is opened. -/
lemma rawStringLength?_eq_none {c : Char} {more after : List Char} (hmore : ∀ x ∈ more, isWordChar x)
    (hafter : after.head?.any isWordChar = false)
    (hstring : (rawFronts.any (fun w => w.toList == c :: more) && opensRawString after) = false) :
    rawStringLength? c (more ++ after) = none := by
  have hr : isWordChar 'r' := by decide
  unfold rawStringLength?
  split
  · exact rawLength?_of_letters (w := "r") (by decide) rfl hmore hstring
  · next rest heq =>
      obtain ⟨others, rfl, rfl⟩ := append_eq_cons_of_isWordChar hr hafter heq
      rw [rawLength?_of_letters (w := "br") (by decide) rfl
        (fun x hx => hmore x (List.mem_cons_of_mem _ hx)) hstring]
      rfl
  · next rest heq =>
      obtain ⟨others, rfl, rfl⟩ := append_eq_cons_of_isWordChar hr hafter heq
      rw [rawLength?_of_letters (w := "cr") (by decide) rfl
        (fun x hx => hmore x (List.mem_cons_of_mem _ hx)) hstring]
      rfl
  · rfl

/-- A word goes on over its letters. -/
lemma wordLength_append {c : Char} {more after : List Char} (hmore : ∀ x ∈ more, isWordChar x)
    (hafter : after.head?.any isWordChar = false)
    (hname : (c :: more == ['r'] && opensRawName after) = false) :
    wordLength c (more ++ after) = more.length := by
  have hrun : runLength isWordChar (more ++ after) = more.length := by
    refine runLength_append hmore fun x hx => ?_
    have hx' : after.head? = some x := hx
    simpa [hx'] using hafter
  unfold wordLength
  split
  · next d rest heq =>
      cases more with
      | cons x others =>
          obtain rfl := (List.cons.inj heq).1
          exact absurd (hmore '#' List.mem_cons_self) (by decide)
      | nil =>
          rw [List.nil_append] at heq
          rw [heq] at hname
          have hd : isWordChar d = false := by simpa [opensRawName] using hname
          rw [hd, if_neg (by simp), List.length_nil]
  · exact hrun

/-- A raw name goes on over its mark and its letters. -/
lemma wordLength_raw {c : Char} {more after : List Char} (hc : isWordChar c)
    (hmore : ∀ x ∈ more, isWordChar x) (hafter : after.head?.any isWordChar = false) :
    wordLength 'r' ('#' :: c :: (more ++ after)) = 2 + more.length := by
  have hrun : runLength isWordChar (more ++ after) = more.length := by
    refine runLength_append hmore fun x hx => ?_
    have hx' : after.head? = some x := hx
    simpa [hx'] using hafter
  rw [wordLength, if_pos hc, hrun]

/-- **A word is read to its last letter.** -/
lemma first_of_word {c : Char} {more after : List Char} (hc : isWordChar c)
    (hmore : ∀ x ∈ more, isWordChar x) (hafter : after.head?.any isWordChar = false)
    (hstring : (rawFronts.any (fun w => w.toList == c :: more) && opensRawString after) = false)
    (hname : (c :: more == ['r'] && opensRawName after) = false) :
    first c (more ++ after) = (.word, more.length) := by
  have hspacing : ¬ Text.isSpacing c := by simp [not_isSpacing_of_isWordChar hc]
  unfold first
  rw [if_neg hspacing, if_pos hc, rawStringLength?_eq_none hmore hafter hstring]
  dsimp only
  rw [wordLength_append hmore hafter hname]

/-- **A raw name is read to its last letter.** -/
lemma first_of_rawName {c : Char} {more after : List Char} (hc : isWordChar c)
    (hmore : ∀ x ∈ more, isWordChar x) (hafter : after.head?.any isWordChar = false) :
    first 'r' ('#' :: c :: (more ++ after)) = (.word, 2 + more.length) := by
  have hnone : rawStringLength? 'r' ('#' :: c :: (more ++ after)) = none :=
    rawLength?_eq_none (not_opensRawString_of_isWordChar hc _).2
  have hspacing : ¬ Text.isSpacing 'r' := by decide
  have hletter : isWordChar 'r' := by decide
  unfold first
  rw [if_neg hspacing, if_pos hletter, hnone]
  dsimp only
  rw [wordLength_raw hc hmore hafter]

/-! ## Literals -/

/-- What is neither an escape nor before a quote is the name of a lifetime. -/
lemma apostropheLength_of_isWordChar {c : Char} {rest : List Char} (hc : isWordChar c)
    (hrest : rest.head? ≠ some '\'') : apostropheLength (c :: rest) = 1 + wordLength c rest := by
  have hbackslash : c ≠ '\\' := ne_of_isWordChar hc (by decide)
  have hquote : c ≠ '\'' := ne_of_isWordChar hc (by decide)
  unfold apostropheLength
  split
  · contradiction
  · next heq => exact absurd (List.cons.inj heq).1 hbackslash
  · next heq => exact absurd (List.cons.inj heq).1 hquote
  · next heq =>
      obtain ⟨-, rfl⟩ := List.cons.inj heq
      exact absurd rfl hrest
  · next d more _ _ _ heq =>
      obtain ⟨rfl, rfl⟩ := List.cons.inj heq
      rw [if_pos hc]

/-- **A lifetime goes on over its letters.** -/
lemma apostropheLength_lifetime {raw : Bool} {w : Word} {after : List Char}
    (hafter : after.head?.any (fun c => isWordChar c || c == '\'') = false)
    (hname : (rawMark raw ++ w.text == ['r'] && opensRawName after) = false) :
    apostropheLength (rawMark raw ++ w.text ++ after) = (rawMark raw ++ w.text).length := by
  have hletters : after.head?.any isWordChar = false := by
    cases hhead : after.head? with
    | none => rfl
    | some c =>
        rw [hhead] at hafter
        exact (Bool.or_eq_false_iff.mp hafter).1
  have hquote : after.head? ≠ some '\'' := fun hhead => by simp [hhead] at hafter
  cases raw with
  | true =>
      have htext : rawMark true ++ w.text ++ after = 'r' :: '#' :: w.front :: (w.back ++ after) := rfl
      rw [htext, apostropheLength_of_isWordChar (by decide) (by simp),
        wordLength_raw w.letter.1 w.letters hletters]
      simp only [rawMark, Word.text, if_true, List.length_append, List.length_cons, List.length_nil]
      omega
  | false =>
      have htext : rawMark false ++ w.text ++ after = w.front :: (w.back ++ after) := rfl
      have hhead : (w.back ++ after).head? ≠ some '\'' := by
        cases hback : w.back with
        | nil => exact hquote
        | cons x others =>
            have hx : isWordChar x := w.letters x (by simp [hback])
            rw [List.cons_append, List.head?_cons, Ne, Option.some.injEq]
            exact ne_of_isWordChar hx (by decide)
      rw [htext, apostropheLength_of_isWordChar w.letter.1 hhead,
        wordLength_append w.letters hletters hname]
      simp only [rawMark, Word.text, Bool.false_eq_true, if_false, List.nil_append, List.length_cons]
      omega

/-- **A character goes on to its closing quote.** -/
lemma apostropheLength_character {body after : List Char} (h : IsCharacter body) :
    apostropheLength (body ++ '\'' :: after) = body.length + 1 := by
  cases h with
  | nil => rfl
  | @plain c hquote hbackslash =>
      unfold apostropheLength
      split
      · contradiction
      · next heq => exact absurd (List.cons.inj heq).1 hbackslash
      · next heq => exact absurd (List.cons.inj heq).1 hquote
      · rfl
      · next hnone heq =>
          obtain ⟨rfl, rfl⟩ := List.cons.inj heq
          exact absurd rfl (hnone _)
  | @escape c rest hrest =>
      have hquoted : IsQuoted '\'' ('\\' :: c :: rest) := .escape hrest
      have htext : apostropheLength ('\\' :: c :: rest ++ '\'' :: after)
          = quotedLength '\'' ('\\' :: c :: rest ++ '\'' :: after) := rfl
      rw [htext, quotedLength_append (by decide) hquoted]

/-- Hash signs that end before a quote end in front of it. -/
lemma prefix_of_replicate {a b : Char} (hab : a ≠ b) :
    ∀ {n : Nat} {body more : List Char},
      List.replicate n a <+: body ++ b :: more → List.replicate n a <+: body
  | 0, _, _, _ => List.nil_prefix
  | n + 1, [], _, h => by
      rw [List.replicate_succ, List.nil_append, List.cons_prefix_cons] at h
      exact absurd h.1 hab
  | n + 1, c :: body, _, h => by
      rw [List.replicate_succ, List.cons_append, List.cons_prefix_cons] at h
      rw [List.replicate_succ, List.cons_prefix_cons]
      exact ⟨h.1, prefix_of_replicate hab h.2⟩

/-- The closing mark of a raw string does not begin at the end of a text and go on behind it. -/
lemma not_infix_of_hashes {hashes : Nat} :
    ∀ {body : List Char}, ¬ ('"' :: List.replicate hashes '#') <:+: body →
      ¬ ('"' :: List.replicate hashes '#') <:+: body ++ ('"' :: List.replicate hashes '#').dropLast
  | [], _ => fun hinfix => by
      have hle := hinfix.length_le
      simp only [List.nil_append, List.length_dropLast, List.length_cons, List.length_replicate] at hle
      omega
  | c :: body, h => by
      rw [List.infix_cons_iff, not_or] at h
      rw [List.cons_append, List.infix_cons_iff, not_or]
      refine ⟨fun hprefix => h.1 ?_, not_infix_of_hashes h.2⟩
      obtain ⟨rfl, hback⟩ := List.cons_prefix_cons.mp hprefix
      rw [List.cons_prefix_cons]
      cases hashes with
      | zero => exact ⟨rfl, List.nil_prefix⟩
      | succ n =>
          rw [List.replicate_succ, List.dropLast_cons_cons] at hback
          exact ⟨rfl, prefix_of_replicate (by decide) hback⟩

/-- **A raw string goes on to its closing mark.** -/
lemma rawLength?_append {hashes : Nat} {body : List Char} (after : List Char)
    (h : ¬ ('"' :: List.replicate hashes '#') <:+: body) :
    rawLength? (rawBack hashes body ++ after) = some (rawBack hashes body).length := by
  have hstop := throughLength_append after (List.cons_ne_nil _ _) (not_infix_of_hashes h)
  have htext : rawBack hashes body ++ after
      = List.replicate hashes '#' ++ '"' :: (body ++ ('"' :: List.replicate hashes '#' ++ after)) := by
    simp only [rawBack, List.append_assoc, List.cons_append]
  have hrun : runLength (fun x => decide (x = '#')) (rawBack hashes body ++ after) = hashes := by
    rw [htext, runLength_append (fun c hc => by simpa using List.eq_of_mem_replicate hc) (by simp),
      List.length_replicate]
  have hdrop : (rawBack hashes body ++ after).drop hashes
      = '"' :: (body ++ ('"' :: List.replicate hashes '#' ++ after)) := by
    rw [htext, List.drop_left' List.length_replicate]
  have hlength : rawLength? (rawBack hashes body ++ after)
      = some (hashes + 1 + throughLength ('"' :: List.replicate hashes '#')
          (body ++ ('"' :: List.replicate hashes '#' ++ after))) := by
    unfold rawLength?
    dsimp only
    rw [hrun, hdrop]
    rfl
  rw [hlength, hstop, rawBack]
  simp only [List.length_append, List.length_cons, List.length_replicate]
  congr 1
  omega

/-- **A raw string is read with the letters in front of it.** -/
lemma first_of_rawString {front : String} (hfront : front ∈ rawFronts) {hashes : Nat} {body : List Char}
    (h : ¬ ('"' :: List.replicate hashes '#') <:+: body) :
    ∃ c more, front.toList ++ rawBack hashes body = c :: more ∧
      ∀ after, first c (more ++ after) = (.literal, more.length) := by
  have hletters : ∀ {c : Char} {more : List Char}, isWordChar c →
      (∀ after, rawStringLength? c (more ++ after) = some more.length) →
      ∀ after, first c (more ++ after) = (.literal, more.length) := by
    intro c more hc hlength after
    have hspacing : ¬ Text.isSpacing c := by simp [not_isSpacing_of_isWordChar hc]
    unfold first
    rw [if_neg hspacing, if_pos hc, hlength]
  have hraw := fun after => rawLength?_append after h
  simp only [rawFronts, List.mem_cons, List.not_mem_nil, or_false] at hfront
  rcases hfront with rfl | rfl | rfl
  · exact ⟨'r', _, rfl, hletters (by decide) hraw⟩
  · refine ⟨'b', 'r' :: rawBack hashes body, rfl, hletters (by decide) fun after => ?_⟩
    rw [List.cons_append, rawStringLength?, hraw, Option.map_some, List.length_cons, Nat.add_comm]
  · refine ⟨'c', 'r' :: rawBack hashes body, rfl, hletters (by decide) fun after => ?_⟩
    rw [List.cons_append, rawStringLength?, hraw, Option.map_some, List.length_cons, Nat.add_comm]

/-- A quotation mark begins a string, and an apostrophe a character or a lifetime. -/
lemma first_of_quote (rest : List Char) :
    first '"' rest = (.literal, quotedLength '"' rest)
      ∧ first '\'' rest = (.literal, apostropheLength rest) :=
  ⟨rfl, rfl⟩

/-! ## Marks -/

/-- What begins nothing else is a mark of one character. -/
lemma first_of_single {c : Char} {rest : List Char} (hspacing : ¬ Text.isSpacing c)
    (hword : ¬ isWordChar c) (hquote : c ≠ '"' ∧ c ≠ '\'')
    (hjoined : ∀ j ∈ joined, j.1.toList = [c] → rest.head? ≠ some j.2) :
    first c rest = (.mark, 0) := by
  unfold first
  rw [if_neg hspacing, if_neg hword]
  split
  · exact absurd rfl (hjoined ("/", '/') (by decide) rfl)
  · exact absurd rfl (hjoined ("/", '*') (by decide) rfl)
  · exact absurd rfl hquote.1
  · exact absurd rfl hquote.2
  · exact absurd rfl (hjoined ("-", '>') (by decide) rfl)
  · exact absurd rfl (hjoined ("=", '>') (by decide) rfl)
  · exact absurd rfl (hjoined ("!", '=') (by decide) rfl)
  · rfl

/-- **A mark is read by itself**, unless a character that belongs to it follows. -/
lemma first_of_mark {text : String} (known : text ∈ marks) {after : List Char}
    (hends : joined.all fun j => !(j.1 == text && after.head? == some j.2)) :
    ∃ c more, text.toList = c :: more ∧ first c (more ++ after) = (.mark, more.length) := by
  have hmarks : ∀ text ∈ marks, text ∈ ["->", "=>", "!="] ∨
      ∃ c ∈ text.toList.head?, text.toList = [c] ∧ ¬ Text.isSpacing c ∧ ¬ isWordChar c
        ∧ (c ≠ '"' ∧ c ≠ '\'') := by decide
  rcases hmarks text known with hpair | ⟨c, -, htext, hspacing, hword, hquote⟩
  · simp only [List.mem_cons, List.not_mem_nil, or_false] at hpair
    rcases hpair with rfl | rfl | rfl <;> exact ⟨_, _, rfl, rfl⟩
  · refine ⟨c, [], htext, first_of_single hspacing hword hquote fun j hj hfront hhead => ?_⟩
    have hsame : j.1 = text := String.toList_inj.mp (hfront.trans htext.symm)
    have hnot := List.all_eq_true.mp hends j hj
    rw [List.nil_append] at hhead
    simp [hsame, hhead] at hnot

/-! ## Symbols -/

/-- Keywords are no fronts of raw strings, and are written with letters. -/
lemma keyword_eq_cons {k : String} (known : k ∈ keywords) :
    ∃ c more, k.toList = c :: more ∧ (∀ x ∈ c :: more, isWordChar x)
      ∧ (rawFronts.any fun w => w.toList == k.toList) = false ∧ k.toList ≠ ['r'] := by
  have hall : ∀ k ∈ keywords, k.toList ≠ [] ∧ (∀ x ∈ k.toList, isWordChar x)
      ∧ (rawFronts.any fun w => w.toList == k.toList) = false ∧ k.toList ≠ ['r'] := by decide
  obtain ⟨hne, hletters, hfront, hname⟩ := hall k known
  obtain ⟨c, more, htext⟩ := List.exists_cons_of_ne_nil hne
  exact ⟨c, more, htext, htext ▸ hletters, hfront, hname⟩

/-- A number is no front of a raw string. -/
lemma digit_ne {digit : Char} (decimal : digit.isDigit) (back : List Char) :
    (rawFronts.any fun w => w.toList == digit :: back) = false ∧ digit :: back ≠ ['r'] := by
  have hfront : ∀ w ∈ rawFronts, ∀ c ∈ w.toList.head?, ¬ c.isDigit := by decide
  refine ⟨?_, ?_⟩
  · rw [List.any_eq_false]
    intro w hw heq
    rw [beq_iff_eq] at heq
    exact hfront w hw digit (by rw [heq]; rfl) decimal
  · rintro heq
    obtain rfl := (List.cons.inj heq).1
    exact absurd decimal (by decide)

/-- **Every symbol is read to where it ends.** -/
theorem Symbol.read (s : Symbol) : s.part.Read lexis := by
  refine ⟨by cases s <;> rfl, fun after hends => ?_⟩
  cases s with
  | name n =>
      simp only [Symbol.part, Symbol.ends, Bool.and_eq_true, Bool.not_eq_true'] at hends
      obtain ⟨⟨hafter, hstring⟩, hname⟩ := hends
      obtain ⟨w, raw, free⟩ := n
      cases raw with
      | true =>
          have hfirst := first_of_rawName w.letter.1 w.letters hafter
          rw [Nat.add_comm] at hfirst
          exact ⟨'r', '#' :: w.front :: w.back, rfl, hfirst⟩
      | false => exact ⟨w.front, w.back, rfl, first_of_word w.letter.1 w.letters hafter hstring hname⟩
  | keyword k known =>
      obtain ⟨c, more, htext, hletters, hfront, hname⟩ := keyword_eq_cons known
      obtain ⟨hc, hmore⟩ := List.forall_mem_cons.mp hletters
      rw [htext] at hfront hname
      have hafter : after.head?.any isWordChar = false := by simpa [Symbol.part, Symbol.ends] using hends
      refine ⟨c, more, htext, first_of_word hc hmore hafter ?_ ?_⟩
      · rw [hfront, Bool.false_and]
      · rw [beq_eq_false_iff_ne.mpr hname, Bool.false_and]
  | numeral digit back decimal letters =>
      obtain ⟨hfront, hname⟩ := digit_ne decimal back
      have hafter : after.head?.any isWordChar = false := by simpa [Symbol.part, Symbol.ends] using hends
      refine ⟨digit, back, rfl, first_of_word (isWordChar_of_isDigit decimal) letters hafter ?_ ?_⟩
      · rw [hfront, Bool.false_and]
      · rw [beq_eq_false_iff_ne.mpr hname, Bool.false_and]
  | lifetime raw w =>
      simp only [Symbol.part, Symbol.ends, Bool.and_eq_true, Bool.not_eq_true'] at hends
      refine ⟨'\'', rawMark raw ++ w.text, rfl, ?_⟩
      exact ((first_of_quote _).2).trans (by rw [apostropheLength_lifetime hends.1 hends.2]; rfl)
  | character body single =>
      refine ⟨'\'', body ++ ['\''], rfl, ((first_of_quote _).2).trans ?_⟩
      rw [List.append_assoc, List.singleton_append, apostropheLength_character single,
        List.length_append]
      rfl
  | string body quoted =>
      refine ⟨'"', body ++ ['"'], rfl, ((first_of_quote _).1).trans ?_⟩
      rw [List.append_assoc, List.singleton_append, quotedLength_append (by decide) quoted,
        List.length_append]
      rfl
  | rawString front known hashes body unclosed =>
      obtain ⟨c, more, htext, hfirst⟩ := first_of_rawString known unclosed
      exact ⟨c, more, htext, hfirst after⟩
  | mark text known => exact first_of_mark known hends

end FunctionChurn.Source.Rust
