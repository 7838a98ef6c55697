import FunctionChurn.Proofs.Source.Order
import FunctionChurn.Proofs.Text.Utf8

/-!
# Occurrences stand where they say

A search reports texts with the places where they begin.  A place is counted while the file is cut into
tokens; here it is read off the file itself.

* `Occurrence.StandsIn` says that an occurrence is a stretch of a text, and that its place is what stands before
  it.
* `Token.Laid` says so of tokens one behind the other, and `Token.laid_place` that they are placed like that.
* `Spans`: what a search gives is written from one token of the file on, over some of those behind it.
* **`Language.standsIn_of_mem`**: every occurrence stands in the file where it says.
* `Occurrence.PlacedIn` is the same for the bytes of a file, and `Occurrence.StandsIn.placedIn` leads there.
-/

namespace FunctionChurn.Source

/-! ## Lengths -/

lemma byteLength_append (as bs : List Char) :
    byteLength (as ++ bs) = byteLength as + byteLength bs := by
  induction as with
  | nil => exact (Nat.zero_add _).symm
  | cons a as ih =>
      have hcons : ∀ cs, byteLength (a :: cs) = a.utf8Size + byteLength cs := fun _ => rfl
      rw [List.cons_append, hcons, hcons, ih, Nat.add_assoc]

lemma lineFeeds_append (as bs : List Char) : lineFeeds (as ++ bs) = lineFeeds as + lineFeeds bs :=
  List.count_append

/-- The number of bytes of a text. -/
lemma length_encode (text : List Char) : (Utf8.encode text).length = byteLength text := by
  induction text with
  | nil => rfl
  | cons c text ih =>
      have hcons : byteLength (c :: text) = c.utf8Size + byteLength text := rfl
      rw [Utf8.encode, List.flatMap_cons, List.length_append, ← Utf8.encode, ih,
        String.length_utf8EncodeChar, hcons]

/-! ## Texts and places -/

/-- **Whether an occurrence stands in a text where it says**: it is a stretch of it, and its place is the number
of bytes and of lines before it. -/
def Occurrence.StandsIn (o : Occurrence) (source : List Char) : Prop :=
  ∃ before after, source = before ++ (o.text ++ after)
    ∧ o.offset = byteLength before ∧ o.line = 1 + lineFeeds before

/-- **Whether an occurrence stands in some bytes where it says.** -/
def Occurrence.PlacedIn (o : Occurrence) (bytes : Bytes) : Prop :=
  Utf8.encode o.text <+: bytes.drop o.offset ∧ o.line = 1 + (bytes.take o.offset).count 0x0A

/-- What stands in a text stands in its bytes. -/
theorem Occurrence.StandsIn.placedIn {o : Occurrence} {source : List Char} (h : o.StandsIn source) :
    o.PlacedIn (Utf8.encode source) := by
  obtain ⟨before, after, rfl, hoffset, hline⟩ := h
  have hbytes : Utf8.encode (before ++ (o.text ++ after))
      = Utf8.encode before ++ (Utf8.encode o.text ++ Utf8.encode after) := by
    simp only [Utf8.encode, List.flatMap_append]
  have hlength : o.offset = (Utf8.encode before).length := by rw [length_encode, hoffset]
  rw [PlacedIn, hbytes, hlength, List.drop_left, List.take_left, Utf8.count_encode, hline]
  exact ⟨List.prefix_append _ _, rfl⟩

/-- A line is no later than the last one. -/
lemma Occurrence.PlacedIn.line_le {o : Occurrence} {bytes : Bytes} (h : o.PlacedIn bytes) :
    1 ≤ o.line ∧ o.line ≤ 1 + bytes.count 0x0A := by
  have hcount : (bytes.take o.offset).count 0x0A ≤ bytes.count 0x0A :=
    (List.take_sublist _ _).count_le _
  have hline := h.2
  omega

/-- What stands further back stands on no earlier line. -/
lemma Occurrence.PlacedIn.line_mono {o p : Occurrence} {bytes : Bytes} (ho : o.PlacedIn bytes)
    (hp : p.PlacedIn bytes) (h : o.offset ≤ p.offset) : o.line ≤ p.line := by
  have hcount : (bytes.take o.offset).count 0x0A ≤ (bytes.take p.offset).count 0x0A :=
    (List.take_prefix_take_left h).sublist.count_le _
  have hlines := And.intro ho.2 hp.2
  omega

/-! ## Tokens -/

namespace Token

/-- **Whether tokens are placed where they are written**, one behind the other, behind some text. -/
def Laid (before : List Char) : List Token → Prop
  | [] => True
  | t :: ts => t.offset = byteLength (before ++ t.gap) ∧ t.line = 1 + lineFeeds (before ++ t.gap)
      ∧ Laid (before ++ t.written) ts

/-- **Lexemes are placed where they are written**, and nothing of them is left out but what is skipped at the
end. -/
theorem laid_place : ∀ (before gap : List Char) (xs : List Lexeme),
    Laid before (place gap (byteLength (before ++ gap)) (1 + lineFeeds (before ++ gap)) xs)
      ∧ ∃ rest, gap ++ xs.flatMap Lexeme.text
        = (place gap (byteLength (before ++ gap)) (1 + lineFeeds (before ++ gap)) xs).flatMap written ++ rest
  | _, gap, [] => ⟨trivial, gap, by simp [place]⟩
  | before, gap, x :: xs => by
      have hoffset : byteLength (before ++ gap) + byteLength x.text
          = byteLength (before ++ (gap ++ x.text)) := by
        rw [← List.append_assoc, byteLength_append (before ++ gap)]
      have hline : 1 + lineFeeds (before ++ gap) + lineFeeds x.text
          = 1 + lineFeeds (before ++ (gap ++ x.text)) := by
        rw [← List.append_assoc, lineFeeds_append (before ++ gap), Nat.add_assoc]
      rw [place, hoffset, hline, List.flatMap_cons, ← List.append_assoc gap x.text]
      split
      · exact laid_place before (gap ++ x.text) xs
      · obtain ⟨hlaid, rest, hrest⟩ := laid_place (before ++ (gap ++ x.text)) [] xs
        rw [List.append_nil, List.nil_append] at hrest
        rw [List.append_nil] at hlaid
        refine ⟨⟨rfl, rfl, hlaid⟩, rest, ?_⟩
        rw [List.flatMap_cons, written, hrest, List.append_assoc (gap ++ x.text)]

/-- **The tokens of a file are placed where they are written.** -/
theorem laid_ofLexemes (l : Lexis) (source : List Char) :
    Laid [] (ofLexemes (l.lexemes source))
      ∧ ∃ rest, source = (ofLexemes (l.lexemes source)).flatMap written ++ rest := by
  have hplace := laid_place [] [] (l.lexemes source)
  rw [List.nil_append, l.flatten_lexemes] at hplace
  exact hplace

/-- Tokens behind others are placed behind what these are written with. -/
lemma laid_append : ∀ {before : List Char} {ts us : List Token},
    Laid before (ts ++ us) → Laid (before ++ ts.flatMap written) us
  | before, [], us, h => by rwa [List.flatMap_nil, List.append_nil]
  | before, t :: ts, us, h => by
      rw [List.flatMap_cons, ← List.append_assoc]
      exact laid_append h.2.2

end Token

/-! ## What a search gives -/

/-- **Whether an occurrence spans some of the tokens**: it begins with one of them, and is written as far as one
behind it. -/
def Spans (ts : List Token) (o : Occurrence) : Prop :=
  ∃ front t more back, ts = front ++ t :: (more ++ back)
    ∧ o.text = t.text ++ more.flatMap Token.written ∧ o.offset = t.offset ∧ o.line = t.line

lemma Spans.append {ts : List Token} {o : Occurrence} (h : Spans ts o) (us : List Token) :
    Spans (us ++ ts) o := by
  obtain ⟨front, t, more, back, rfl, ho⟩ := h
  exact ⟨us ++ front, t, more, back, (List.append_assoc _ _ _).symm, ho⟩

lemma Spans.cons {ts : List Token} {o : Occurrence} (h : Spans ts o) (u : Token) : Spans (u :: ts) o :=
  h.append [u]

/-- The occurrence of a token spans it alone. -/
lemma spans_of_mem {t : Token} {ts : List Token} (h : t ∈ ts) (group : Int) :
    Spans ts (t.occurrence group) := by
  obtain ⟨front, back, rfl⟩ := List.append_of_mem h
  exact ⟨front, t, [], back, rfl, by simp [Token.occurrence], rfl, rfl⟩

/-- **What spans tokens of a file stands in the file.** -/
lemma Spans.standsIn {l : Lexis} {source : List Char} {o : Occurrence}
    (h : Spans (Token.ofLexemes (l.lexemes source)) o) : o.StandsIn source := by
  obtain ⟨hlaid, rest, hrest⟩ := Token.laid_ofLexemes l source
  obtain ⟨front, t, more, back, htokens, htext, hoffset, hline⟩ := h
  rw [htokens] at hlaid hrest
  obtain ⟨htoffset, htline, -⟩ := Token.laid_append hlaid
  rw [List.nil_append] at htoffset htline
  refine ⟨front.flatMap Token.written ++ t.gap, back.flatMap Token.written ++ rest, ?_,
    hoffset.trans htoffset, hline.trans htline⟩
  rw [hrest, htext, List.flatMap_append, List.flatMap_cons, List.flatMap_append, Token.written]
  simp only [List.append_assoc]

/-- A group is written from its opening bracket to its closing one. -/
lemma Go.spans_group (o : Token) (inner : Forest) (c : Token) (rest : Forest) (group : Int) :
    Spans (Forest.group o inner c rest).tokens ⟨group, groupText o inner c, o.offset, o.line⟩ := by
  refine ⟨[], o, inner.tokens ++ [c], rest.tokens, ?_, ?_, rfl, rfl⟩
  · simp [Forest.tokens]
  · simp [groupText, Forest.written]

/-- **What a row declares spans tokens of it.** -/
theorem Go.spans_of_mem_declaredAfter :
    ∀ (previous : Option Token) (f : Forest), ∀ o ∈ declaredAfter previous f, Spans f.tokens o
  | _, .nil, _, h => by simp [declaredAfter] at h
  | _, .group o' inner c rest, o, h => by
      have ih := spans_of_mem_declaredAfter (some c) rest o h
      have htokens : (Forest.group o' inner c rest).tokens = (o' :: inner.tokens ++ [c]) ++ rest.tokens := by
        simp [Forest.tokens]
      rw [htokens]
      exact ih.append _
  | previous, .leaf t rest, o, h => by
      rw [declaredAfter, List.mem_append] at h
      refine Spans.cons ?_ t
      rcases h with h | h
      · split at h
        · rcases declaredBy_cases (beginsStatement previous t) rest with
            hby | ⟨name, more, rfl, hby⟩ | ⟨o', inner, c, name, more, rfl, hby⟩
          · simp [hby] at h
          · rw [hby, List.mem_singleton] at h
            rw [h]
            exact spans_of_mem (by simp [Forest.tokens]) _
          · rw [hby, List.mem_cons, List.mem_singleton] at h
            rcases h with rfl | rfl
            · exact Go.spans_group o' inner c _ _
            · exact spans_of_mem (by simp [Forest.tokens]) _
        · simp at h
      · exact spans_of_mem_declaredAfter (some t) rest o h

/-- What are some of the tokens spans them. -/
lemma spans_of_sublist {os : List Occurrence} {ts us : List Token}
    (h : os.Sublist (us.tail.map (·.occurrence 0))) (hus : us.Sublist ts) : ∀ o ∈ os, Spans ts o := by
  intro o ho
  obtain ⟨t, ht, rfl⟩ := List.mem_map.mp (h.subset ho)
  exact spans_of_mem (hus.subset (List.mem_of_mem_tail ht)) 0

end FunctionChurn.Source

namespace FunctionChurn

open Source

/-- **Every occurrence stands in the file where it says.** -/
theorem Language.standsIn_of_mem (l : Language) (source : List Char) :
    ∀ o ∈ l.occurrences source, o.StandsIn source := by
  intro o ho
  cases l with
  | go =>
      have hspans := Go.spans_of_mem_declaredAfter none _ o ho
      rw [Forest.tokens_ofTokens] at hspans
      exact hspans.standsIn
  | rust =>
      have hcode := Rust.tokens_codeBehind_sublist 0
        (Forest.ofTokens (Token.ofLexemes (Rust.lexis.lexemes source)))
      rw [Forest.tokens_ofTokens] at hcode
      exact (spans_of_sublist (Rust.definedIn_sublist _) hcode o ho).standsIn
  | lua =>
      exact (spans_of_sublist (Lua.namedIn_sublist _) (List.Sublist.refl _) o ho).standsIn
  | unsupported => simp [occurrences] at ho

end FunctionChurn
