import FunctionChurn.Proofs.Source.Forest
import FunctionChurn.Proofs.Source.Go.Piece
import FunctionChurn.Proofs.Source.Order

/-!
# What a file declares is what is found in it

The tokens of a file are put into a forest, and the search looks at its top row.  The forest has the
shape of the row that was written, so the search meets the declarations of the file, and nothing else that
begins with `func` is taken for one.

* `Shapes` says that a forest has the shape of a row.
* `exists_shapes`: the tokens of a row make a forest of its shape, and `shapes_ofTokens`: it is the forest
  that is built.
* `declaredAfter_shapes` is the search in a forest of known shape.
* **`File.occurrences_text`**: the search gives what the file declares.
-/

namespace FunctionChurn.Source.Go

/-! ## Shapes -/

/-- **Whether a forest has the shape of a row**, given what was skipped before the gap of the row. -/
inductive Shapes : {l : Level} → List Char → Forest → Row l → Prop where
  | nil {l : Level} {front : List Char} : Shapes front .nil (.nil : Row l)
  | symbol {l : Level} {front : List Char} {t : Token} {f : Forest} {gap : Gap} {s : Symbol}
      {rest : Row l} :
      Shows front t ⟨gap, .symbol s⟩ → Shapes [] f rest →
        Shapes front (.leaf t f) (.symbol gap s rest)
  | group {l : Level} {front : List Char} {o c : Token} {r f : Forest} {gap close : Gap} {b : Bracket}
      {inner : Row .inside} {rest : Row l} :
      Shows front o ⟨gap, .opening b⟩ → Shapes [] r inner → Shows [] c ⟨close, .closing b⟩ →
        Shapes [] f rest → Shapes front (.group o r c f) (.group gap b inner close rest)
  | signature {l : Level} {front : List Char} {t o c : Token} {r f : Forest} {gap start close : Gap}
      {params : Row .inside} {rest : Row l} :
      Shows front t ⟨gap, .func⟩ → Shows [] o ⟨start, .opening .round⟩ → Shapes [] r params →
        Shows [] c ⟨close, .closing .round⟩ → Shapes [] f rest →
        Shapes front (.leaf t (.group o r c f)) (.signature gap start params close rest)
  | function {front : List Char} {t name : Token} {f : Forest} {gap nameGap : Gap} {n : Identifier}
      {rest : Row .top} :
      Shows front t ⟨gap, .func⟩ → Shows [] name ⟨nameGap, .symbol (.name n)⟩ → Shapes [] f rest →
        Shapes front (.leaf t (.leaf name f)) (.function gap nameGap n rest)
  | method {front : List Char} {t o c name o' c' : Token} {r r' f : Forest}
      {gap start close nameGap paramsGap paramsClose : Gap} {n : Identifier}
      {receiver params : Row .inside} {rest : Row .top} :
      Shows front t ⟨gap, .func⟩ → Shows [] o ⟨start, .opening .round⟩ → Shapes [] r receiver →
        Shows [] c ⟨close, .closing .round⟩ → Shows [] name ⟨nameGap, .symbol (.name n)⟩ →
        Shows [] o' ⟨paramsGap, .opening .round⟩ → Shapes [] r' params →
        Shows [] c' ⟨paramsClose, .closing .round⟩ → Shapes [] f rest →
        Shapes front (.leaf t (.group o r c (.leaf name (.group o' r' c' f))))
          (.method gap start receiver close nameGap n paramsGap params paramsClose rest)

/-- The tokens that are a list of pieces begin with one that is the first. -/
lemma exists_shows {front : List Char} {p : Piece} {ps : List Piece} {ts : List Token}
    (h : ts.map Token.look = looksBehind front (p :: ps)) :
    ∃ t us, ts = t :: us ∧ Shows front t p ∧ us.map Token.look = looksBehind [] ps := by
  obtain ⟨t, us, hts, ht, hus⟩ := List.map_eq_cons_iff.mp h
  exact ⟨t, us, hts, ht, by rw [hus, looksBehind_nil]⟩

/-- The tokens that are a bracketed row begin with a group that has its shape. -/
lemma exists_enclosed {front : List Char} {gap close : Gap} {b : Bracket} {inner : Row .inside}
    {rest : List Piece} {ts : List Token}
    (ih : ∀ us : List Token, us.map Token.look = looksBehind [] inner.pieces →
      ∃ r : Forest, r.tokens = us ∧ Shapes [] r inner)
    (h : ts.map Token.look = looksBehind front (Row.enclosed gap b inner.pieces close rest)) :
    ∃ o r c us, ts = o :: (r.tokens ++ c :: us) ∧ Shows front o ⟨gap, .opening b⟩ ∧ Shapes [] r inner
      ∧ Shows [] c ⟨close, .closing b⟩ ∧ us.map Token.look = looksBehind [] rest := by
  obtain ⟨o, more, hts, ho, hmore⟩ := exists_shows h
  rw [looksBehind_nil, List.map_append, ← looksBehind_nil, ← looksBehind_nil] at hmore
  obtain ⟨vs, ws, hsplit, hvs, hws⟩ := List.map_eq_append_iff.mp hmore
  obtain ⟨r, hr, hshapes⟩ := ih vs hvs
  obtain ⟨c, us, hc, hclosing, hus⟩ := exists_shows hws
  exact ⟨o, r, c, us, by rw [hts, hsplit, hr, hc], ho, hshapes, hclosing, hus⟩

/-- **The tokens of a row make a forest of its shape.** -/
theorem exists_shapes {l : Level} (r : Row l) :
    ∀ (front : List Char) (ts : List Token), ts.map Token.look = looksBehind front r.pieces →
      ∃ f : Forest, f.tokens = ts ∧ Shapes front f r := by
  induction r with
  | nil =>
      intro front ts h
      obtain rfl : ts = [] := List.map_eq_nil_iff.mp h
      exact ⟨.nil, rfl, .nil⟩
  | symbol gap s rest ih =>
      intro front ts h
      obtain ⟨t, us, rfl, ht, hus⟩ := exists_shows h
      obtain ⟨f, rfl, hf⟩ := ih [] us hus
      exact ⟨.leaf t f, rfl, .symbol ht hf⟩
  | group gap b inner close rest ihinner ih =>
      intro front ts h
      obtain ⟨o, r, c, us, rfl, ho, hr, hc, hus⟩ := exists_enclosed (ihinner []) h
      obtain ⟨f, rfl, hf⟩ := ih [] us hus
      exact ⟨.group o r c f, rfl, .group ho hr hc hf⟩
  | signature gap start params close rest ihparams ih =>
      intro front ts h
      obtain ⟨t, more, rfl, ht, hmore⟩ := exists_shows h
      obtain ⟨o, r, c, us, rfl, ho, hr, hc, hus⟩ := exists_enclosed (ihparams []) hmore
      obtain ⟨f, rfl, hf⟩ := ih [] us hus
      exact ⟨.leaf t (.group o r c f), rfl, .signature ht ho hr hc hf⟩
  | function gap nameGap name rest ih =>
      intro front ts h
      obtain ⟨t, more, rfl, ht, hmore⟩ := exists_shows h
      obtain ⟨n, us, rfl, hn, hus⟩ := exists_shows hmore
      obtain ⟨f, rfl, hf⟩ := ih [] us hus
      exact ⟨.leaf t (.leaf n f), rfl, .function ht hn hf⟩
  | method gap start receiver close nameGap name paramsGap params paramsClose rest ihreceiver ihparams
      ih =>
      intro front ts h
      obtain ⟨t, more, rfl, ht, hmore⟩ := exists_shows h
      obtain ⟨o, r, c, behind, rfl, ho, hr, hc, hbehind⟩ := exists_enclosed (ihreceiver []) hmore
      obtain ⟨n, list, rfl, hn, hlist⟩ := exists_shows hbehind
      obtain ⟨o', r', c', us, rfl, ho', hr', hc', hus⟩ := exists_enclosed (ihparams []) hlist
      obtain ⟨f, rfl, hf⟩ := ih [] us hus
      exact ⟨.leaf t (.group o r c (.leaf n (.group o' r' c' f))), rfl,
        .method ht ho hr hc hn ho' hr' hc' hf⟩

section Shapes

variable {l : Level} {front : List Char} {f : Forest} {r : Row l}

/-- The tokens of a forest that has the shape of a row are the pieces of the row. -/
lemma Shapes.look (h : Shapes front f r) : f.tokens.map Token.look = looksBehind front r.pieces := by
  induction h with
  | nil => rfl
  | symbol ht _ ih =>
      simp only [looksBehind_nil] at ih
      simp only [Forest.tokens, Row.pieces, List.map_cons, looksBehind, ih]
      exact congrArg (· :: _) ht
  | group ho _ hc _ ihinner ih =>
      simp only [looksBehind_nil] at ihinner ih
      simp only [Forest.tokens, Row.pieces, Row.enclosed, List.map_cons, List.map_append, looksBehind,
        ihinner, ih]
      rw [ho, hc]
      rfl
  | signature ht ho _ hc _ ihparams ih =>
      simp only [looksBehind_nil] at ihparams ih
      simp only [Forest.tokens, Row.pieces, Row.enclosed, List.map_cons, List.map_append, looksBehind,
        ihparams, ih]
      rw [ht, ho, hc]
      rfl
  | function ht hn _ ih =>
      simp only [looksBehind_nil] at ih
      simp only [Forest.tokens, Row.pieces, List.map_cons, looksBehind, ih]
      rw [ht, hn]
      rfl
  | method ht ho _ hc hn ho' _ hc' _ ihreceiver ihparams ih =>
      simp only [looksBehind_nil] at ihreceiver ihparams ih
      simp only [Forest.tokens, Row.pieces, Row.enclosed, List.map_cons, List.map_append, looksBehind,
        ihreceiver, ihparams, ih]
      rw [ht, ho, hc, hn, ho', hc']
      rfl

lemma Shapes.written (h : Shapes [] f r) : f.written = r.text := by
  have hlook : f.written = (f.tokens.map Token.look).flatMap fun x => x.1 ++ x.2.2 := by
    rw [Forest.written, List.flatMap_map]
    rfl
  rw [hlook, h.look, looksBehind_nil, List.flatMap_map]
  rfl

lemma balanced_leaf {t : Token} {gap : Gap} {p : Part} (ht : Shows front t ⟨gap, p⟩)
    (hp : ∀ b, p ≠ .opening b ∧ p ≠ .closing b) (hf : f.Balanced) : (Forest.leaf t f).Balanced := by
  refine .leaf ?_ ?_ hf
  · rw [← Bool.not_eq_true, ht.opens_iff]
    rintro ⟨b, heq⟩
    exact (hp b).1 heq
  · rw [← Bool.not_eq_true, ht.closes_iff]
    rintro ⟨b, heq⟩
    exact (hp b).2 heq

lemma balanced_group {o c : Token} {gap close : Gap} {b : Bracket} {inner : Forest}
    (ho : Shows front o ⟨gap, .opening b⟩) (hinner : inner.Balanced)
    (hc : Shows [] c ⟨close, .closing b⟩) (hf : f.Balanced) : (Forest.group o inner c f).Balanced := by
  have hopening : Forest.closes o = false := by
    rw [← Bool.not_eq_true, ho.closes_iff]
    simp
  exact .group hopening (hc.closes_iff.mpr ⟨b, rfl⟩) (pairs_of_shows ho hc) hinner hf

lemma Shapes.balanced (h : Shapes front f r) : f.Balanced := by
  induction h with
  | nil => exact .nil
  | symbol ht _ ih => exact balanced_leaf ht (by simp) ih
  | group ho _ hc _ ihinner ih => exact balanced_group ho ihinner hc ih
  | signature ht ho _ hc _ ihparams ih =>
      exact balanced_leaf ht (by simp) (balanced_group ho ihparams hc ih)
  | function ht hn _ ih => exact balanced_leaf ht (by simp) (balanced_leaf hn (by simp) ih)
  | method ht ho _ hc hn ho' _ hc' _ ihreceiver ihparams ih =>
      have hname := balanced_leaf hn (by simp) (balanced_group ho' ihparams hc' ih)
      exact balanced_leaf ht (by simp) (balanced_group ho ihreceiver hc hname)

/-- **The forest of the tokens of a row has its shape.** -/
theorem shapes_ofTokens {front : List Char} {r : Row l} {ts : List Token}
    (h : ts.map Token.look = looksBehind front r.pieces) : Shapes front (Forest.ofTokens ts) r := by
  obtain ⟨f, rfl, hf⟩ := exists_shapes r front ts h
  rwa [Forest.ofTokens_tokens hf.balanced]

end Shapes

/-! ## The search -/

lemma groupText_of_shapes {o c : Token} {f : Forest} {start close : Gap} {receiver : Row .inside}
    (ho : Shows [] o ⟨start, .opening .round⟩) (hf : Shapes [] f receiver)
    (hc : Shows [] c ⟨close, .closing .round⟩) :
    groupText o f c = '(' :: (receiver.text ++ close.text ++ [')']) := by
  have hopening : o.text = ['('] := ho.text
  have hclosing : c.written = close.text ++ [')'] := by rw [Token.written, hc.gap, hc.text]; rfl
  rw [groupText, hopening, hf.written, hclosing]
  simp

/-- What is taken for the name and the parameters of a method begins the row with a name. -/
lemma beginsNamed_of_shapes {l : Level} {front : List Char} {name o c : Token} {inner f : Forest}
    {r : Row l} (h : Shapes front (.leaf name (.group o inner c f)) r) (hname : isName name)
    (hround : o.isMark "(") : r.BeginsNamed := by
  cases h with
  | @symbol _ _ _ _ gap s rest ht hrest =>
      obtain ⟨n, hn⟩ := ht.isName_iff.mp hname
      obtain rfl : s = .name n := Part.symbol.inj hn
      cases hrest with
      | group ho _ _ _ =>
          obtain rfl := Part.opening.inj (ho.isMark_round.mp hround)
          trivial
  | signature ht _ _ _ _ => simp [ht.isName_iff] at hname
  | method ht _ _ _ _ _ _ _ _ => simp [ht.isName_iff] at hname

lemma declaredBy_signature {l : Level} {begins : Bool} {f : Forest} {rest : Row l}
    (h : Shapes [] f rest) (hrest : begins → ¬ rest.BeginsNamed) (o : Token) (inner : Forest)
    (c : Token) : declaredBy begins (.group o inner c f) = [] := by
  unfold declaredBy
  split
  · contradiction
  · next o' inner' c' name params pinner pc prest heq =>
      obtain ⟨rfl, rfl, rfl, rfl⟩ := Forest.group.inj heq
      refine if_neg fun hall => ?_
      simp only [Bool.and_eq_true] at hall
      obtain ⟨⟨⟨hbegins, -⟩, hname⟩, hround⟩ := hall
      exact hrest hbegins (beginsNamed_of_shapes h hname hround)
  · rfl

lemma declaredAfter_leaf {front : List Char} {previous : Option Token} {t : Token} {gap : Gap}
    {p : Part} (h : Shows front t ⟨gap, p⟩) (hp : p ≠ .func) (f : Forest) :
    declaredAfter previous (.leaf t f) = declaredAfter (some t) f := by
  have hnot : ¬ t.isTheWord "func" := fun hfunc => hp (h.isTheWord_func.mp hfunc)
  rw [declaredAfter, if_neg hnot, List.nil_append]

/-- The search looks at what is behind the word `func`, and goes on there. -/
lemma declaredAfter_func {front : List Char} {previous : Option Token} {t : Token} {gap : Gap}
    (h : Shows front t ⟨gap, .func⟩) (f : Forest) :
    declaredAfter previous (.leaf t f)
      = declaredBy (beginsStatement previous t) f ++ declaredAfter (some t) f := by
  rw [declaredAfter, if_pos (h.isTheWord_func.mpr rfl)]

/-- **The search meets what a row declares, and nothing else.** -/
theorem declaredAfter_shapes {l : Level} {front : List Char} {f : Forest} {r : Row l}
    (h : Shapes front f r) :
    ∀ {previous : Option Token} {before : Option Part},
      Option.Rel (fun u q => ∃ front g, Shows front u ⟨g, q⟩) previous before → '\n' ∉ front →
      r.WellBegun before →
      (declaredAfter previous f).map (fun o => (o.group, o.text)) = r.entries := by
  have hfeed : '\n' ∉ ([] : List Char) := List.not_mem_nil
  -- the search looks one step ahead of the row, so a `func` is judged by what the row says behind it
  induction h with
  | nil => exact fun _ _ _ => rfl
  | symbol ht _ ih =>
      intro previous before _ _ hbegun
      rw [declaredAfter_leaf ht (by simp)]
      exact ih (.some ⟨_, _, ht⟩) hfeed hbegun
  | group _ _ hc _ _ ih =>
      intro previous before _ _ hbegun
      exact ih (.some ⟨_, _, hc⟩) hfeed hbegun
  | signature ht _ _ hc hrest _ ih =>
      intro previous before hprevious hfront hwell
      obtain ⟨hnamed, hbegun⟩ := hwell
      have hnone := declaredBy_signature hrest fun hbegins =>
        hnamed ((beginsStatement_iff hprevious ht hfront).mp hbegins)
      rw [declaredAfter_func ht, hnone, List.nil_append]
      exact ih (.some ⟨_, _, hc⟩) hfeed hbegun
  | function ht hn _ ih =>
      intro previous before _ _ hbegun
      have hname : isName _ := hn.isName_iff.mpr ⟨_, rfl⟩
      rw [declaredAfter_func ht, declaredAfter_leaf hn (by simp), declaredBy, if_pos hname,
        List.map_append, ih (.some ⟨_, _, hn⟩) hfeed hbegun, Row.entries]
      simp only [Token.occurrence, hn.text, nameGroup]
      rfl
  | method ht ho hr hc hn ho' _ hc' _ _ _ ih =>
      intro previous before hprevious hfront hwell
      obtain ⟨hbegins, hbegun⟩ := hwell
      have hname : isName _ := hn.isName_iff.mpr ⟨_, rfl⟩
      have hreceiver := groupText_of_shapes ho hr hc
      rw [declaredAfter_func ht, (beginsStatement_iff hprevious ht hfront).mpr hbegins, declaredBy,
        hname, ho.isMark_round.mpr rfl, ho'.isMark_round.mpr rfl, declaredAfter,
        declaredAfter_leaf hn (by simp), declaredAfter, List.map_append,
        ih (.some ⟨_, _, hc'⟩) hfeed hbegun, Row.entries]
      simp only [Token.occurrence, hn.text, hreceiver, nameGroup, receiverGroup]
      rfl

/-! ## Byte order marks -/

lemma head_gap {g : Gap} {after : List Char} (h : ∀ c ∈ after.head?, c ≠ '\uFEFF') :
    ∀ c ∈ (g.text ++ after).head?, c ≠ '\uFEFF' := by
  cases g with
  | nil => exact h
  | cons t g =>
      intro c hc
      cases t with
      | blank b spacing =>
          obtain rfl : b = c := Option.some.inj hc
          rintro rfl
          exact absurd spacing (by decide)
      | line body inLine =>
          obtain rfl : '/' = c := Option.some.inj hc
          decide
      | general body unclosed =>
          obtain rfl : '/' = c := Option.some.inj hc
          decide

lemma head_part (p : Part) : ∃ c more, p.text = c :: more ∧ c ≠ '\uFEFF' := by
  have hkeywords : ∀ k ∈ "func" :: keywords, ∃ c ∈ k.toList.head?, c ≠ '\uFEFF' := by decide
  have hoperators : ∀ o ∈ operators, ∃ c ∈ o.toList.head?, c ≠ '\uFEFF' := by decide
  have hword : ∀ k ∈ "func" :: keywords, ∃ c more, k.toList = c :: more ∧ c ≠ '\uFEFF' := by
    intro k hk
    obtain ⟨c, hc, hne⟩ := hkeywords k hk
    obtain ⟨more, hmore⟩ := List.head?_eq_some_iff.mp hc
    exact ⟨c, more, hmore, hne⟩
  cases p with
  | func => exact hword "func" List.mem_cons_self
  | opening b => exact ⟨b.opening, [], rfl, by cases b <;> decide⟩
  | closing b => exact ⟨b.closing, [], rfl, by cases b <;> decide⟩
  | symbol s =>
      cases s with
      | name n => exact ⟨n.front, n.back, rfl, n.letter.2.2⟩
      | keyword k known => exact hword k (List.mem_cons_of_mem _ known)
      | number text number =>
          obtain ⟨c, more, htext, hne, -⟩ := number.first
          exact ⟨c, more, htext, hne⟩
      | rune body quoted => exact ⟨_, _, rfl, by decide⟩
      | string body quoted => exact ⟨_, _, rfl, by decide⟩
      | raw body unclosed => exact ⟨_, _, rfl, by decide⟩
      | operator o known =>
          obtain ⟨c, hc, hne⟩ := hoperators o known
          obtain ⟨more, hmore⟩ := List.head?_eq_some_iff.mp hc
          exact ⟨c, more, hmore, hne⟩

/-- A file that is not marked does not look as if it were. -/
lemma head_pieces (e : Ending) (ps : List Piece) :
    ∀ c ∈ (ps.flatMap Piece.text ++ e.text).head?, c ≠ '\uFEFF' := by
  cases ps with
  | nil =>
      refine head_gap fun c hc => ?_
      cases hcomment : e.comment with
      | none => simp [hcomment] at hc
      | some body =>
          obtain rfl : '/' = c := by simpa [hcomment] using hc
          decide
  | cons p ps =>
      rw [List.flatMap_cons, Piece.text, List.append_assoc, List.append_assoc]
      refine head_gap fun c hc => ?_
      obtain ⟨d, more, htext, hne⟩ := head_part p.part
      rw [htext] at hc
      obtain rfl : d = c := Option.some.inj hc
      exact hne

/-! ## Files -/

/-- Nothing but a byte order mark stands only at the start of a file. -/
lemma lexemes_eq (marked : Bool) {source : List Char}
    (h : ∀ c ∈ source.head?, c ≠ '\uFEFF') :
    lexis.lexemes ((if marked then ['\uFEFF'] else []) ++ source)
      = ⟨.blank, if marked then ['\uFEFF'] else []⟩ :: lexis.scan source := by
  cases marked with
  | true => rfl
  | false =>
      have hopening : lexis.openingLength source = 0 := by
        unfold Lexis.openingLength
        split
        · exact absurd rfl (h '\uFEFF' rfl)
        · rfl
      simp [Lexis.lexemes, hopening]

/-- **The tokens of a file are its pieces.** -/
lemma File.look (f : File) : (Token.ofLexemes (lexis.lexemes f.text)).map Token.look
    = looksBehind (if f.marked then ['\uFEFF'] else []) f.code.pieces := by
  have hhead : ∀ c ∈ (f.code.text ++ f.ending.text).head?, c ≠ '\uFEFF' :=
    head_pieces f.ending f.code.pieces
  have hblank : Token.isTrivia .blank := rfl
  rw [File.text, lexemes_eq f.marked hhead, Token.ofLexemes, map_look_place, looks, if_pos hblank,
    List.nil_append]
  exact looks_pieces f.ending f.code.pieces _ f.apart

/-- **A search gives what the file declares**, in the order of the file: the name of each function, and the
receiver list and the name of each method. -/
theorem File.occurrences_text (f : File) :
    (Language.go.occurrences f.text).map (fun o => (o.group, o.text)) = f.code.entries
      ∧ (Language.go.occurrences f.text).Pairwise fun o p => o.offset < p.offset := by
  refine ⟨?_, Language.pairwise_occurrences .go f.text⟩
  have hfront : '\n' ∉ if f.marked then ['\uFEFF'] else [] := by
    cases f.marked <;> decide
  exact declaredAfter_shapes (shapes_ofTokens f.look) .none hfront f.wellBegun

private def space : Trivium := .blank ' ' isSpacing_blank

private def feed : Trivium := .blank '\n' isSpacing_feed

/-- A method behind a function literal, with brackets in the comments. -/
def stack : File where
  marked := false
  code :=
    .symbol [] (.keyword "package" (by decide)) <|
    .symbol [space] (.name ⟨'s', [], by decide, isWordChar_of_mem_nil, by decide⟩) <|
    .symbol [feed, .line " func (".toList (by decide)] (.keyword "var" (by decide)) <|
    .symbol [space] (.name ⟨'v', [], by decide, isWordChar_of_mem_nil, by decide⟩) <|
    .symbol [space] (.operator "=" (by decide)) <|
    .signature [space] [] .nil [] <|
    .group [space] .curly .nil [] <|
    .method [feed] [space]
      (.symbol [] (.name ⟨'s', [], by decide, isWordChar_of_mem_nil, by decide⟩) <|
        .symbol [space, .general " ) ".toList (by decide), space] (.operator "*" (by decide)) <|
        .symbol [] (.name ⟨'S', "tack".toList, by decide, by decide, by decide⟩) .nil)
      [] [space] ⟨'P', "ush".toList, by decide, by decide, by decide⟩ [] .nil [] <|
    .group [space] .curly .nil [] .nil
  ending := ⟨[feed], none, by simp⟩
  apart := by decide
  wellBegun := by decide

theorem File.occurrences_text_stack :
    String.ofList stack.text
        = "package s\n// func (\nvar v = func() \x7b\x7d\nfunc (s /* ) */ *Stack) Push() \x7b\x7d\n"
      ∧ (Language.go.occurrences stack.text).map (fun o => (o.group, o.text))
        = [(0, "(s /* ) */ *Stack)".toList), (1, "Push".toList)] := by
  refine ⟨?_, ?_⟩
  · decide
  · rw [(File.occurrences_text stack).1]
    decide

end FunctionChurn.Source.Go
