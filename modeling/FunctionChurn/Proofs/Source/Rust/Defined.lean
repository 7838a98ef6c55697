import FunctionChurn.Proofs.Source.Bare
import FunctionChurn.Proofs.Source.Forest
import FunctionChurn.Proofs.Source.Order
import FunctionChurn.Proofs.Source.Rust.Scan

/-!
# What a file defines is what is found in it

The search takes the token trees out of the forest of a file and looks for functions in what is left.
The forest has the shape of the row that was written, so the search meets the functions of the file, and
knows where their headers end.

* `codeBehind_bare`, `hasBody_bare` and `definedIn_bare`: places do not matter to the search.
* `Row.forest` is the forest of a row, in front of another one, and `Row.ofTokens_pieces`: it is the one
  that is built.
* `Row.plain` is that forest without its token trees, and `codeBehind_forest`: it is what the search is left
  with.
* `hasBody_plain`: no row of a header decides whether a body follows it.
* **`definedIn_plain`**: the search finds the functions of a row, and goes on behind it.
* **`File.occurrences_defined`**: the search gives what the file defines.
-/

namespace FunctionChurn.Source.Rust

open Go (Bracket)
open scoped Go

/-! ## Places do not matter -/

lemma hiddenBehind_bare (t : Token) : ∀ f : Forest, hiddenBehind t.bare f.bare = hiddenBehind t f
  | .nil | .group _ _ _ _ | .leaf _ .nil | .leaf _ (.leaf _ .nil) | .leaf _ (.leaf _ (.leaf _ _))
  | .leaf _ (.leaf _ (.group _ _ _ _)) | .leaf _ (.group _ _ _ _) => rfl

lemma codeBehind_bare :
    ∀ (n : Nat) (f : Forest), codeBehind n f.bare = (codeBehind n f).bare
  | n, .nil => by simp only [codeBehind, Forest.bare]
  | n + 1, .leaf _ rest => codeBehind_bare n rest
  | n + 1, .group _ _ _ rest => codeBehind_bare n rest
  | 0, .group o inner c rest => by
      rw [Forest.bare, codeBehind, codeBehind_bare 0 inner, codeBehind_bare 0 rest, codeBehind,
        Forest.bare]
  | 0, .leaf t rest => by
      rw [Forest.bare, codeBehind, hiddenBehind_bare, codeBehind]
      split
      · next n _ => exact codeBehind_bare n rest
      · rw [codeBehind_bare 0 rest, Forest.bare]

lemma hasBody_bare : ∀ (depth : Int) (f : Forest), hasBody depth f.bare = hasBody depth f
  | _, .nil => rfl
  | depth, .leaf t rest => by
      have hangle : angle t.bare = angle t := rfl
      rw [Forest.bare, hasBody, hangle, hasBody_bare _ rest, Token.isMark_bare, hasBody]
  | depth, .group o inner c rest => by
      rw [Forest.bare, hasBody, hasBody_bare depth rest, Token.isMark_bare, hasBody]

lemma definedBy_bare (f : Forest) : definedBy f.bare = (definedBy f).map Occurrence.bare := by
  cases f with
  | nil => rfl
  | group o inner c rest => rfl
  | leaf name rest =>
      rw [Forest.bare, definedBy, hasBody_bare, Token.isWord_bare, definedBy]
      split <;> rfl

lemma definedIn_bare : ∀ f : Forest, definedIn f.bare = (definedIn f).map Occurrence.bare
  | .nil => rfl
  | .leaf t rest => by
      rw [Forest.bare, definedIn, definedBy_bare, definedIn_bare rest, Token.isTheWord_bare, definedIn,
        List.map_append]
      split <;> rfl
  | .group o inner c rest => by
      rw [Forest.bare, definedIn, definedIn_bare inner, definedIn_bare rest, definedIn, List.map_append]

/-! ## Symbols as tokens -/

/-- A symbol as a token without a place. -/
def Symbol.token (s : Symbol) : Token := s.part.lexeme.bare

lemma Symbol.isMark_token (s : Symbol) (mark : String) :
    s.token.isMark mark = (s.kind == .mark && s.text == mark.toList) := rfl

lemma Symbol.isTheWord_token (s : Symbol) (word : String) :
    s.token.isTheWord word = (s.kind == .word && s.text == word.toList) := rfl

/-- What does not stand by itself in a row is none of its symbols. -/
lemma Symbol.ne_of_admits {l : Level} {s : Symbol} (h : l.Admits s) {b : String} (hb : b ∈ l.barred) :
    s.token.isMark b = false ∧ s.token.isTheWord b = false := by
  have hne : (s.text == b.toList) = false := beq_eq_false_iff_ne.mpr fun heq => h b hb heq.symm
  rw [isMark_token, isTheWord_token, hne, Bool.and_false, Bool.and_false]
  exact ⟨rfl, rfl⟩

/-- Brackets stand in pairs at every level. -/
lemma Level.brackets_subset (l : Level) : ∀ b ∈ brackets, b ∈ l.barred := by
  cases l <;> decide

/-- In code the word `fn` and the mark of attributes do not stand by themselves. -/
lemma Level.mem_barred (l : Level) (h : l ≠ tokens) : "fn" ∈ l.barred ∧ "#" ∈ l.barred := by
  cases l with
  | tokens => exact absurd rfl h
  | code | header | angles => decide

lemma Level.within_ne_tokens (l : Level) (h : l ≠ tokens) : l.within ≠ tokens := by
  cases l with
  | tokens => exact absurd rfl h
  | code | header | angles => decide

/-- A symbol of a row is no bracket. -/
lemma Symbol.not_bracket {l : Level} {s : Symbol} (h : l.Admits s) :
    Forest.opens s.token = false ∧ Forest.closes s.token = false := by
  have hnot : ∀ b ∈ Level.brackets, s.token.isMark b = false :=
    fun b hb => (s.ne_of_admits h (l.brackets_subset b hb)).1
  simp only [Level.brackets, List.mem_cons, List.not_mem_nil, or_false, forall_eq_or_imp, forall_eq]
    at hnot
  simp [Forest.opens, Forest.closes, hnot]

/-- A name is no keyword, and with the mark of a raw one it is not written like one. -/
lemma Identifier.text_ne (n : Identifier) : ∀ k ∈ keywords, n.text ≠ k.toList := by
  intro k hk heq
  obtain ⟨w, raw, free⟩ := n
  cases raw with
  | false => exact free rfl k hk heq.symm
  | true =>
      have hhash : ∀ k ∈ keywords, '#' ∉ k.toList := by decide
      refine hhash k hk ?_
      rw [← heq]
      exact List.mem_cons_of_mem _ List.mem_cons_self

lemma Symbol.isTheWord_name (n : Identifier) : (name n).token.isTheWord "fn" = false := by
  have hne : (n.text == "fn".toList) = false :=
    beq_eq_false_iff_ne.mpr (n.text_ne "fn" (by decide))
  rw [isTheWord_token, text, hne, Bool.and_false]

lemma Symbol.namesMacro_token (s : Symbol) :
    namesMacro s.token = (s.kind == .word && !keywords.any fun k => s.text == k.toList) := rfl

lemma Symbol.namesMacro_name (n : Identifier) : namesMacro (name n).token := by
  have hnone : (keywords.any fun k => n.text == k.toList) = false := by
    rw [List.any_eq_false]
    intro k hk heq
    exact n.text_ne k hk (by simpa using heq)
  rw [namesMacro_token, text, hnone]
  rfl

/-- Only a word that is no keyword can name a macro. -/
lemma Symbol.couldCall_of_namesMacro {s : Symbol} (h : namesMacro s.token) : s.CouldCall := by
  rw [namesMacro_token, Bool.and_eq_true, beq_iff_eq] at h
  obtain ⟨hkind, hfree⟩ := h
  cases s with
  | name n => trivial
  | numeral digit back decimal letters => trivial
  | keyword k known =>
      have hany : (keywords.any fun o => k.toList == o.toList) = true :=
        List.any_eq_true.mpr ⟨k, known, beq_self_eq_true _⟩
      rw [text, hany] at hfree
      simp at hfree
  | lifetime | character | string | rawString | mark => simp [kind] at hkind

/-! ## Rows as forests -/

/-- A bracketed forest in front of another one. -/
def enclosing (b : Bracket) (inner rest : Forest) : Forest :=
  .group (Symbol.opening b).token inner (Symbol.closing b).token rest

/-- **The forest of a row**, in front of another one. -/
def Row.forest {l : Level} : Row l → Forest → Forest
  | nil, tail => tail
  | symbol _ s _ rest, tail => .leaf s.token (rest.forest tail)
  | group _ b _ inner _ rest, tail => enclosing b (inner.forest .nil) (rest.forest tail)
  | angled _ _ inner _ rest, tail =>
      .leaf Symbol.less.token (inner.forest (.leaf Symbol.greater.token (rest.forest tail)))
  | attributed _ _ none _ tree _ rest, tail =>
      .leaf Symbol.hash.token (enclosing .square (tree.forest .nil) (rest.forest tail))
  | attributed _ _ (some _) _ tree _ rest, tail =>
      .leaf Symbol.hash.token
        (.leaf Symbol.bang.token (enclosing .square (tree.forest .nil) (rest.forest tail)))
  | call _ _ name _ _ b tree _ rest, tail =>
      .leaf (Symbol.name name).token
        (.leaf Symbol.bang.token (enclosing b (tree.forest .nil) (rest.forest tail)))
  | pointer _ _ _ params _ rest, tail =>
      .leaf Symbol.fn.token (enclosing .round (params.forest .nil) (rest.forest tail))
  | rules _ _ _ name _ b tree _ rest, tail =>
      .leaf (Symbol.name macroRules).token
        (.leaf Symbol.bang.token
          (.leaf (Symbol.name name).token (enclosing b (tree.forest .nil) (rest.forest tail))))
  | function _ _ name header _ body _ rest, tail =>
      .leaf Symbol.fn.token
        (.leaf (Symbol.name name).token
          (header.forest (enclosing .curly (body.forest .nil) (rest.forest tail))))
  | signature _ _ name header _ rest, tail =>
      .leaf Symbol.fn.token
        (.leaf (Symbol.name name).token
          (header.forest (.leaf Symbol.semicolon.token (rest.forest tail))))

/-- A piece as a token without a place. -/
def Piece.token (p : Piece) : Token := p.symbol.token

/-- **The tokens of a row are its pieces.** -/
lemma tokens_forest {l : Level} (r : Row l) :
    ∀ tail : Forest, (r.forest tail).tokens = r.pieces.map Piece.token ++ tail.tokens := by
  induction r with
  | attributed inCode gap inward start tree close rest ihtree ihrest =>
      intro tail
      cases inward <;>
        simp [Row.forest, Row.pieces, enclosing, Row.enclosed, Forest.tokens, Piece.token, ihtree, ihrest]
  | _ =>
      intro tail
      simp [Row.forest, Row.pieces, enclosing, Row.enclosed, Forest.tokens, Piece.token, *]

/-- Brackets of one shape are a pair. -/
lemma pairs_bracket (b : Bracket) :
    Forest.closes (Symbol.opening b).token = false ∧ Forest.closes (Symbol.closing b).token
      ∧ Forest.pairs (Symbol.opening b).token (Symbol.closing b).token := by
  cases b <;> decide

lemma balanced_enclosing {b : Bracket} {inner rest : Forest} (hinner : inner.Balanced)
    (hrest : rest.Balanced) : (enclosing b inner rest).Balanced := by
  obtain ⟨hopening, hclosing, hpairs⟩ := pairs_bracket b
  exact .group hopening hclosing hpairs hinner hrest

/-- A name is no bracket. -/
lemma balanced_name {n : Identifier} {rest : Forest} (h : rest.Balanced) :
    (Forest.leaf (Symbol.name n).token rest).Balanced :=
  .leaf rfl rfl h

/-- **The brackets of a row stand in pairs.** -/
lemma balanced_forest {l : Level} (r : Row l) :
    ∀ {tail : Forest}, tail.Balanced → (r.forest tail).Balanced := by
  induction r with
  | nil => exact id
  | symbol gap s admitted rest ih =>
      intro tail h
      obtain ⟨hopens, hcloses⟩ := Symbol.not_bracket admitted
      exact .leaf hopens hcloses (ih h)
  | group gap b enclosed inner close rest ihinner ihrest =>
      exact fun h => balanced_enclosing (ihinner .nil) (ihrest h)
  | angled inHeader gap inner close rest ihinner ihrest =>
      exact fun h => .leaf rfl rfl (ihinner (.leaf rfl rfl (ihrest h)))
  | attributed inCode gap inward start tree close rest ihtree ihrest =>
      intro tail h
      have hbehind := balanced_enclosing (b := .square) (ihtree .nil) (ihrest h)
      cases inward with
      | none => exact .leaf rfl rfl hbehind
      | some bang => exact .leaf rfl rfl (.leaf rfl rfl hbehind)
  | call inCode gap name bang start b tree close rest ihtree ihrest =>
      exact fun h => balanced_name (.leaf rfl rfl (balanced_enclosing (ihtree .nil) (ihrest h)))
  | pointer inCode gap start params close rest ihparams ihrest =>
      exact fun h => .leaf rfl rfl (balanced_enclosing (ihparams .nil) (ihrest h))
  | rules gap bang nameGap name start b tree close rest ihtree ihrest =>
      exact fun h => balanced_name
        (.leaf rfl rfl (balanced_name (balanced_enclosing (ihtree .nil) (ihrest h))))
  | function gap nameGap name header start body close rest ihheader ihbody ihrest =>
      exact fun h => .leaf rfl rfl
        (balanced_name (ihheader (balanced_enclosing (ihbody .nil) (ihrest h))))
  | signature gap nameGap name header stop rest ihheader ihrest =>
      exact fun h => .leaf rfl rfl (balanced_name (ihheader (.leaf rfl rfl (ihrest h))))

/-- **The forest that is built from the pieces of a row is the forest of the row.** -/
lemma Row.ofTokens_pieces {l : Level} (r : Row l) :
    Forest.ofTokens (r.pieces.map Piece.token) = r.forest .nil := by
  have htokens := tokens_forest r .nil
  rw [Forest.tokens, List.append_nil] at htokens
  rw [← htokens, Forest.ofTokens_tokens (balanced_forest r .nil)]

/-! ## Token trees -/

/-- Whether a forest begins with an exclamation mark. -/
def beginsBang : Forest → Bool
  | .leaf t _ => t.isMark "!"
  | _ => false

/-- A row begins with an exclamation mark if it says so. -/
lemma beginsBang_forest {l : Level} {r : Row l} (h : ¬ r.BeginsBang) {tail : Forest}
    (htail : beginsBang tail = false) : beginsBang (r.forest tail) = false := by
  cases r with
  | nil => exact htail
  | symbol gap s admitted rest =>
      have hne : (s.text == "!".toList) = false := beq_eq_false_iff_ne.mpr h
      rw [Row.forest, beginsBang, Symbol.isMark_token, hne, Bool.and_false]
  | attributed inCode gap inward start tree close rest => cases inward <;> rfl
  | _ => rfl

/-- **No token tree begins** at what is neither the mark of attributes nor a name before an exclamation
mark. -/
lemma hiddenBehind_eq_none {t : Token} {f : Forest} (hhash : t.isMark "#" = false)
    (hbang : namesMacro t → beginsBang f = false) : hiddenBehind t f = none := by
  have hrules : t.isTheWord "macro_rules" → namesMacro t := by
    intro h
    have hfree : (keywords.any fun k => "macro_rules".toList == k.toList) = false := by decide
    rw [Token.isTheWord, Bool.and_eq_true, beq_iff_eq, beq_iff_eq] at h
    rw [namesMacro, Token.isWord, h.1, h.2, hfree]
    rfl
  unfold hiddenBehind
  split
  · next bang name o inner c rest =>
      refine if_neg fun h => ?_
      simp only [Bool.and_eq_true] at h
      have hnot := hbang (hrules h.1.1)
      rw [beginsBang, h.1.2] at hnot
      contradiction
  · next bang o inner c rest _ =>
      refine if_neg fun h => ?_
      simp only [hhash, Bool.false_and, Bool.or_false, Bool.and_eq_true] at h
      have hnot := hbang h.2
      rw [beginsBang, h.1] at hnot
      contradiction
  · simp [hhash]
  · rfl

/-- A token that begins no token tree is code. -/
lemma codeBehind_leaf {t : Token} {f : Forest} (hhash : t.isMark "#" = false)
    (hbang : namesMacro t → beginsBang f = false) :
    codeBehind 0 (.leaf t f) = .leaf t (codeBehind 0 f) := by
  rw [codeBehind, hiddenBehind_eq_none hhash hbang]

lemma codeBehind_enclosing (b : Bracket) (inner rest : Forest) :
    codeBehind 0 (enclosing b inner rest) = enclosing b (codeBehind 0 inner) (codeBehind 0 rest) := by
  rw [enclosing, codeBehind, enclosing]

/-- The word that functions begin with is code, and so are the brackets of types and the semicolon. -/
lemma codeBehind_known {s : Symbol} (hs : s ∈ [Symbol.fn, .less, .greater, .semicolon]) (f : Forest) :
    codeBehind 0 (.leaf s.token f) = .leaf s.token (codeBehind 0 f) := by
  simp only [List.mem_cons, List.not_mem_nil, or_false] at hs
  refine codeBehind_leaf ?_ fun hnames => ?_
  · rcases hs with rfl | rfl | rfl | rfl <;> decide
  · have hcould := Symbol.couldCall_of_namesMacro hnames
    rcases hs with rfl | rfl | rfl | rfl <;> exact absurd hcould (by decide)

/-- **An attribute is no code.** -/
lemma codeBehind_attributed (inner rest : Forest) :
    codeBehind 0 (.leaf Symbol.hash.token (enclosing .square inner rest)) = codeBehind 0 rest
      ∧ codeBehind 0 (.leaf Symbol.hash.token (.leaf Symbol.bang.token (enclosing .square inner rest)))
        = codeBehind 0 rest := by
  have hplain : hiddenBehind Symbol.hash.token (enclosing .square inner rest) = some 1 := by
    rw [enclosing, hiddenBehind]
    rfl
  have hbang : hiddenBehind Symbol.hash.token
      (.leaf Symbol.bang.token (enclosing .square inner rest)) = some 2 := by
    rw [enclosing, hiddenBehind]
    rfl
  constructor
  · rw [codeBehind, hplain]
    rfl
  · rw [codeBehind, hbang]
    rfl

/-- **The call of a macro is no code.** -/
lemma codeBehind_call (n : Identifier) (b : Bracket) (inner rest : Forest) :
    codeBehind 0 (.leaf (Symbol.name n).token (.leaf Symbol.bang.token (enclosing b inner rest)))
      = codeBehind 0 rest := by
  have hbang : Symbol.bang.token.isMark "!" = true := rfl
  have hhidden : hiddenBehind (Symbol.name n).token
      (.leaf Symbol.bang.token (enclosing b inner rest)) = some 2 := by
    rw [enclosing, hiddenBehind, hbang, Symbol.namesMacro_name, Bool.true_or, Bool.and_true, if_pos rfl]
  rw [codeBehind, hhidden]
  rfl

/-- **The definition of a macro is no code.** -/
lemma codeBehind_rules (n : Identifier) (b : Bracket) (inner rest : Forest) :
    codeBehind 0 (.leaf (Symbol.name macroRules).token
        (.leaf Symbol.bang.token (.leaf (Symbol.name n).token (enclosing b inner rest))))
      = codeBehind 0 rest := by
  have hhidden : hiddenBehind (Symbol.name macroRules).token
      (.leaf Symbol.bang.token (.leaf (Symbol.name n).token (enclosing b inner rest))) = some 3 := rfl
  rw [codeBehind, hhidden]
  rfl

/-- **The code of a row**, in front of another forest: the row without its token trees. -/
def Row.plain {l : Level} : Row l → Forest → Forest
  | nil, tail => tail
  | symbol _ s _ rest, tail => .leaf s.token (rest.plain tail)
  | group _ b _ inner _ rest, tail => enclosing b (inner.plain .nil) (rest.plain tail)
  | angled _ _ inner _ rest, tail =>
      .leaf Symbol.less.token (inner.plain (.leaf Symbol.greater.token (rest.plain tail)))
  | attributed _ _ _ _ _ _ rest, tail | call _ _ _ _ _ _ _ _ rest, tail
  | rules _ _ _ _ _ _ _ _ rest, tail => rest.plain tail
  | pointer _ _ _ params _ rest, tail =>
      .leaf Symbol.fn.token (enclosing .round (params.plain .nil) (rest.plain tail))
  | function _ _ name header _ body _ rest, tail =>
      .leaf Symbol.fn.token
        (.leaf (Symbol.name name).token
          (header.plain (enclosing .curly (body.plain .nil) (rest.plain tail))))
  | signature _ _ name header _ rest, tail =>
      .leaf Symbol.fn.token
        (.leaf (Symbol.name name).token
          (header.plain (.leaf Symbol.semicolon.token (rest.plain tail))))

/-- **A search is left with the code of a row.** -/
theorem codeBehind_forest {l : Level} (r : Row l) :
    l ≠ .tokens → r.Clear → ∀ {tail : Forest}, beginsBang tail = false →
      codeBehind 0 (r.forest tail) = r.plain (codeBehind 0 tail) := by
  have hnil : codeBehind 0 .nil = .nil := by rw [codeBehind]
  -- behind each symbol the row says whether an exclamation mark follows, the last one asks the tail
  induction r with
  | nil => exact fun _ _ _ _ => rfl
  | @symbol l gap s admitted rest ih =>
      intro hl hclear tail htail
      have hhash := (s.ne_of_admits admitted (l.mem_barred hl).2).1
      rw [Row.forest, codeBehind_leaf hhash fun hnames =>
        beginsBang_forest (hclear.1 (Symbol.couldCall_of_namesMacro hnames)) htail, ih hl hclear.2 htail,
        Row.plain]
  | @group l gap b enclosed inner close rest ihinner ihrest =>
      intro hl hclear tail htail
      rw [Row.forest, codeBehind_enclosing, ihinner (l.within_ne_tokens hl) hclear.1 rfl, hnil,
        ihrest hl hclear.2 htail, Row.plain]
  | angled inHeader gap inner close rest ihinner ihrest =>
      intro hl hclear tail htail
      rw [Row.forest, codeBehind_known (by simp), ihinner (by decide) hclear.1 rfl,
        codeBehind_known (by simp), ihrest hl hclear.2 htail, Row.plain]
  | attributed inCode gap inward start tree close rest _ ihrest =>
      intro hl hclear tail htail
      cases inward with
      | none => rw [Row.forest, (codeBehind_attributed _ _).1, ihrest hl hclear htail, Row.plain]
      | some bang => rw [Row.forest, (codeBehind_attributed _ _).2, ihrest hl hclear htail, Row.plain]
  | call inCode gap name bang start b tree close rest _ ihrest =>
      intro hl hclear tail htail
      rw [Row.forest, codeBehind_call, ihrest hl hclear htail, Row.plain]
  | pointer inCode gap start params close rest ihparams ihrest =>
      intro hl hclear tail htail
      rw [Row.forest, codeBehind_known (by simp), codeBehind_enclosing,
        ihparams (by decide) hclear.1 rfl, hnil, ihrest hl hclear.2 htail, Row.plain]
  | rules gap bang nameGap name start b tree close rest _ ihrest =>
      intro hl hclear tail htail
      rw [Row.forest, codeBehind_rules, ihrest hl hclear htail, Row.plain]
  | function gap nameGap name header start body close rest ihheader ihbody ihrest =>
      intro hl hclear tail htail
      obtain ⟨hbegins, hheader, hbody, hrest⟩ := hclear
      rw [Row.forest, codeBehind_known (by simp),
        codeBehind_leaf rfl fun _ => beginsBang_forest hbegins rfl, ihheader (by decide) hheader rfl,
        codeBehind_enclosing, ihbody (by decide) hbody rfl, hnil, ihrest hl hrest htail, Row.plain]
  | signature gap nameGap name header stop rest ihheader ihrest =>
      intro hl hclear tail htail
      obtain ⟨hbegins, hheader, hrest⟩ := hclear
      rw [Row.forest, codeBehind_known (by simp),
        codeBehind_leaf rfl fun _ => beginsBang_forest hbegins rfl, ihheader (by decide) hheader rfl,
        codeBehind_known (by simp), ihrest hl hrest htail, Row.plain]

/-! ## Headers -/

/-- A symbol of a header changes nothing about how deep it stands, and does not end it. -/
lemma angle_of_admits {l : Level} (hl : l = .header ∨ l = .angles) {s : Symbol} (h : l.Admits s) :
    s.token.isMark ";" = false ∧ angle s.token = 0 := by
  have hbarred : ";" ∈ l.barred ∧ "<" ∈ l.barred ∧ ">" ∈ l.barred := by
    rcases hl with rfl | rfl <;> decide
  obtain ⟨hsemicolon, hless, hgreater⟩ := hbarred
  refine ⟨(s.ne_of_admits h hsemicolon).1, ?_⟩
  rw [angle, (s.ne_of_admits h hless).1, (s.ne_of_admits h hgreater).1]
  rfl

/-- A bracketed row of a header is not the body. -/
lemma hasBody_enclosing {l : Level} (hl : l = .header ∨ l = .angles) {b : Bracket}
    (henclosed : l.Encloses b) {depth : Int} (hangles : l = .angles → 0 < depth)
    (inner rest : Forest) : hasBody depth (enclosing b inner rest) = hasBody depth rest := by
  have hopening : ((Symbol.opening b).token.isMark "\x7b" && decide (depth ≤ 0)) = false := by
    rcases hl with rfl | rfl
    · cases b with
      | round => rfl
      | square => rfl
      | curly => exact absurd rfl (henclosed rfl)
    · have hpos := hangles rfl
      rw [decide_eq_false (by omega), Bool.and_false]
  rw [enclosing, hasBody, hopening, Bool.false_or]

/-- **No row of a header decides whether a body follows it**: it has no semicolon, its angle brackets are in
pairs, and what blocks it has stand between them. -/
theorem hasBody_plain {l : Level} (r : Row l) :
    l = .header ∨ l = .angles → ∀ {depth : Int}, 0 ≤ depth → (l = .angles → 0 < depth) →
      ∀ tail : Forest, hasBody depth (r.plain tail) = hasBody depth tail := by
  induction r with
  | nil => exact fun _ _ _ _ _ => rfl
  | symbol gap s admitted rest ih =>
      intro hl depth hdepth hangles tail
      obtain ⟨hsemicolon, hangle⟩ := angle_of_admits hl admitted
      rw [Row.plain, hasBody, hsemicolon, hangle, Int.add_zero, ih hl hdepth hangles, Bool.not_false,
        Bool.true_and]
  | group gap b enclosed inner close rest _ ihrest =>
      intro hl depth hdepth hangles tail
      rw [Row.plain, hasBody_enclosing hl enclosed hangles, ihrest hl hdepth hangles]
  | angled inHeader gap inner close rest ihinner ihrest =>
      intro hl depth hdepth hangles tail
      have hless : Symbol.less.token.isMark ";" = false ∧ angle Symbol.less.token = 1 := by decide
      have hgreater : Symbol.greater.token.isMark ";" = false ∧ angle Symbol.greater.token = -1 := by
        decide
      rw [Row.plain, hasBody, hless.1, hless.2, ihinner (.inr rfl) (by omega) (fun _ => by omega),
        hasBody, hgreater.1, hgreater.2, Int.add_neg_cancel_right, ihrest hl hdepth hangles]
      rfl
  | attributed inCode gap inward start tree close rest _ ihrest => exact ihrest
  | call inCode gap name bang start b tree close rest _ ihrest => exact ihrest
  | @pointer l inCode gap start params close rest _ ihrest =>
      intro hl depth hdepth hangles tail
      have hfn : Symbol.fn.token.isMark ";" = false ∧ angle Symbol.fn.token = 0 := by decide
      have hround : l.Encloses .round := fun _ => by decide
      rw [Row.plain, hasBody, hfn.1, hfn.2, Int.add_zero,
        hasBody_enclosing hl hround hangles, ihrest hl hdepth hangles]
      rfl
  | rules | function | signature => exact fun hl => absurd hl (by decide)

/-- **A body follows the header of a function**, and none that of a signature. -/
lemma hasBody_header (header : Row .header) :
    (∀ inner rest : Forest, hasBody 0 (header.plain (enclosing .curly inner rest)) = true)
      ∧ ∀ rest : Forest, hasBody 0 (header.plain (.leaf Symbol.semicolon.token rest)) = false := by
  have hheader := fun tail => hasBody_plain header (.inl rfl) (Int.le_refl 0) (by decide) tail
  constructor
  · intro inner rest
    rw [hheader]
    rfl
  · intro rest
    rw [hheader]
    rfl

/-! ## Functions -/

lemma definedIn_leaf {t : Token} (h : t.isTheWord "fn" = false) (rest : Forest) :
    definedIn (.leaf t rest) = definedIn rest := by
  rw [definedIn, h]
  rfl

/-- What is behind an `fn` and a name is looked through, whether a body follows or not. -/
lemma definedIn_fn (n : Identifier) (rest : Forest) :
    definedIn (.leaf Symbol.fn.token (.leaf (Symbol.name n).token rest))
      = (if hasBody 0 rest then [.named n.text] else []) ++ definedIn rest := by
  have hfn : Symbol.fn.token.isTheWord "fn" = true := by decide
  have hword : (Symbol.name n).token.isWord = true := rfl
  have hoccurrence : (Symbol.name n).token.occurrence 0 = .named n.text := rfl
  rw [definedIn, hfn, if_pos rfl, definedIn_leaf (Symbol.isTheWord_name n), definedBy, hword,
    Bool.true_and, hoccurrence]

lemma definedIn_enclosing (b : Bracket) (inner rest : Forest) :
    definedIn (enclosing b inner rest) = definedIn inner ++ definedIn rest := rfl

/-- **The functions of a row are found**, and the search goes on behind it. -/
theorem definedIn_plain {l : Level} (r : Row l) :
    l ≠ .tokens → ∀ tail : Forest,
      definedIn (r.plain tail) = r.names.map Occurrence.named ++ definedIn tail := by
  have hnil : definedIn .nil = [] := rfl
  induction r with
  | nil => exact fun _ _ => rfl
  | @symbol l gap s admitted rest ih =>
      intro hl tail
      have hfn := (s.ne_of_admits admitted (l.mem_barred hl).1).2
      rw [Row.plain, definedIn_leaf hfn, ih hl, Row.names]
  | @group l gap b enclosed inner close rest ihinner ihrest =>
      intro hl tail
      rw [Row.plain, definedIn_enclosing, ihinner (l.within_ne_tokens hl), hnil, ihrest hl, Row.names,
        List.map_append, List.append_nil, List.append_assoc]
  | angled inHeader gap inner close rest ihinner ihrest =>
      intro hl tail
      rw [Row.plain, definedIn_leaf (by decide), ihinner (by decide), definedIn_leaf (by decide),
        ihrest hl, Row.names, List.map_append, List.append_assoc]
  | attributed inCode gap inward start tree close rest _ ihrest => exact ihrest
  | call inCode gap name bang start b tree close rest _ ihrest => exact ihrest
  | pointer inCode gap start params close rest ihparams ihrest =>
      intro hl tail
      have hnone : ∀ inner rest : Forest, definedBy (enclosing .round inner rest) = [] :=
        fun _ _ => rfl
      rw [Row.plain, definedIn, hnone, ite_self, List.nil_append, definedIn_enclosing,
        ihparams (by decide), hnil, ihrest hl, Row.names, List.map_append, List.append_nil,
        List.append_assoc]
  | rules gap bang nameGap name start b tree close rest _ ihrest => exact ihrest
  | function gap nameGap name header start body close rest ihheader ihbody ihrest =>
      intro hl tail
      rw [Row.plain, definedIn_fn, (hasBody_header header).1, if_pos rfl, ihheader (by decide),
        definedIn_enclosing, ihbody hl, hnil, ihrest hl, Row.names, List.map_cons, List.map_append,
        List.map_append, List.append_nil, List.cons_append, List.nil_append, List.cons_append, List.append_assoc,
        List.append_assoc]
  | signature gap nameGap name header stop rest ihheader ihrest =>
      intro hl tail
      rw [Row.plain, definedIn_fn, (hasBody_header header).2, if_neg (by decide), List.nil_append,
        ihheader (by decide), definedIn_leaf (by decide), ihrest hl, Row.names, List.map_append,
        List.append_assoc]

/-! ## Files -/

/-- **A line for the interpreter is skipped** to its end, and nothing else is. -/
lemma opening_shebang {marked : Bool} {rest : List Char} {shebang : Option (List Char)}
    (h : Opened marked rest shebang) :
    opening (shebangText shebang ++ rest) = (shebangText shebang).length := by
  cases shebang with
  | some body =>
      obtain ⟨hline, hhead, hrest⟩ := h
      have hnot : (body ++ rest).head? ≠ some '[' := by
        cases body with
        | nil => exact fun h => absurd (hrest '[' h) (by decide)
        | cons c body => exact hhead
      have hskip : opening ('#' :: '!' :: (body ++ rest)) = 2 + lineLength (body ++ rest) := by
        unfold opening
        split
        · next heq =>
            rw [List.cons.injEq, List.cons.injEq] at heq
            exact absurd (by rw [heq.2.2, List.head?_cons]) hnot
        · next heq =>
            rw [List.cons.injEq, List.cons.injEq] at heq
            rw [heq.2.2]
        · next hnone => exact absurd rfl (hnone _)
      refine hskip.trans ?_
      rw [lineLength_append hline hrest, shebangText, List.length_cons, List.length_cons]
      omega
  | none =>
      have hnot := h.1
      rw [shebangText, List.nil_append, List.length_nil]
      unfold opening
      split
      · rfl
      · next more hnone =>
          obtain ⟨others, hothers⟩ := hnot ⟨more, rfl⟩
          have hmore : '[' :: others = more := by simpa using hothers
          exact absurd hmore.symm (hnone others)
      · rfl

/-- **What stands only at the start of a file is skipped.** -/
lemma File.openingLength_text (f : File) : lexis.openingLength f.text = f.front.length := by
  have hhead : f.marked = false →
      (shebangText f.shebang ++ (f.code.text ++ f.ending.text)).head? ≠ some '\uFEFF' := by
    have hopened := f.opened
    cases hshebang : f.shebang with
    | some body => exact fun _ => by simp [shebangText]
    | none =>
        rw [hshebang] at hopened
        exact hopened.2
  exact lexis.openingLength_front hhead (opening_shebang f.opened)

/-- **The tokens of a file are its pieces.** -/
lemma File.map_bare_tokens (f : File) :
    (Token.ofLexemes (lexis.lexemes f.text)).map Token.bare = f.code.pieces.map Piece.token :=
  Lexis.map_bare_pieces Gap.skips Symbol.read f.openingLength_text f.apart f.ending.visible

/-- **A search gives what the file defines**: the names of its functions with a body, each once and in the
order of the file. -/
theorem File.occurrences_defined (f : File) :
    (Language.rust.occurrences f.text).map (fun o => (o.group, o.text))
        = f.code.names.map (fun name => (0, name))
      ∧ (Language.rust.occurrences f.text).Pairwise fun o p => o.offset < p.offset := by
  have hnil : codeBehind 0 .nil = .nil := by rw [codeBehind]
  refine ⟨map_group_text_of_bare ?_, Language.pairwise_occurrences .rust f.text⟩
  rw [Language.occurrences, defined, ← definedIn_bare, Rust.code, ← codeBehind_bare,
    ← Forest.ofTokens_bare, f.map_bare_tokens, Row.ofTokens_pieces,
    codeBehind_forest f.code (by decide) f.clear rfl, hnil, definedIn_plain f.code (by decide)]
  exact List.append_nil _

private def space : Trivium := .blank ' ' Go.isSpacing_blank

private def feed : Trivium := .blank '\n' Go.isSpacing_feed

/-- A trait with a signature and a method, and blocks in the types of both. -/
def shape : File where
  marked := false
  shebang := some "/bin/run".toList
  code :=
    .attributed (by decide) [feed, .line " fn a() \x7b".toList (by decide)] (some []) []
      (.symbol [] .fn (by decide) .nil) [] <|
    .symbol [space] (.keyword "trait" (by decide)) (by decide) <|
    .symbol [space] (.name ⟨⟨'T', [], by decide, by decide⟩, false, by decide⟩) (by decide) <|
    .group [space] .curly (by decide)
      (.signature [feed] [space] ⟨⟨'s', [], by decide, by decide⟩, false, by decide⟩
        (.group [] .round (by decide)
          (.symbol [] (.name ⟨⟨'f', [], by decide, by decide⟩, false, by decide⟩) (by decide) <|
            .symbol [] (.mark ":" (by decide)) (by decide) <|
            .pointer (by decide) [space] [] .nil [] .nil)
          [] <|
        .symbol [space] (.mark "->" (by decide)) (by decide) <|
        .group [space] .square (by decide)
          (.symbol [] (.name ⟨⟨'u', "8".toList, by decide, by decide⟩, false, by decide⟩) (by decide) <|
            .symbol [] .semicolon (by decide) <|
            .symbol [space] (.numeral '2' [] (by decide) (by decide)) (by decide) .nil)
          [] .nil)
        [] <|
      .function [feed] [space] ⟨⟨'f', "n".toList, by decide, by decide⟩, true, by decide⟩
        (.angled (.inl rfl) [] (.symbol [] (.lifetime false ⟨'r', [], by decide, by decide⟩) (by decide) .nil)
            [] <|
          .group [] .round (by decide) .nil [] <|
          .symbol [space] (.mark "->" (by decide)) (by decide) <|
          .symbol [space] (.name ⟨⟨'A', [], by decide, by decide⟩, false, by decide⟩) (by decide) <|
          .angled (.inl rfl) []
            (.group [] .curly (by decide)
              (.function [] [space] ⟨⟨'g', [], by decide, by decide⟩, false, by decide⟩
                (.group [] .round (by decide) .nil [] .nil)
                [] .nil [] <|
              .symbol [space] (.numeral '1' [] (by decide) (by decide)) (by decide) .nil)
              [] .nil)
            [] .nil)
        [space]
        (.symbol [space, .block " fn /* \x7b */ ".toList
            (.plain (by decide) (by decide) <| .plain (by decide) (by decide) <|
              .plain (by decide) (by decide) <| .plain (by decide) (by decide) <|
              @IsComment.nested " \x7b ".toList " ".toList
                (.plain (by decide) (by decide) <| .plain (by decide) (by decide) <|
                  .plain (by decide) (by decide) .nil)
                (.plain (by decide) (by decide) .nil)), space]
          (.rawString "br" (by decide) 1 "\" fn \x7b".toList (by decide)) (by decide) <|
        .symbol [] .semicolon (by decide) <|
        .call (by decide) [space] ⟨⟨'m', [], macroRules.letter, by decide⟩, false, by decide⟩ [] [space] .curly
          (.symbol [space] .fn (by decide) <|
            .symbol [space] (.character ['\\', '\''] (.escape .nil)) (by decide) .nil)
          [space] .nil)
        [space] .nil)
      [feed] .nil
  ending := ⟨[feed], some " fn".toList, by decide⟩
  apart := by decide
  clear := by decide
  opened := ⟨by decide, by decide, by decide⟩

/-- What looks like a function in the comments, the strings and the token trees of the file is none. -/
theorem File.occurrences_defined_shape :
    String.ofList shape.text
        = "#!/bin/run\n// fn a() \x7b\n#![fn] trait T \x7b\nfn s(f: fn()) -> [u8; 2];\n"
          ++ "fn r#fn<'r>() -> A<\x7bfn g()\x7b\x7d 1\x7d> \x7b /* fn /* \x7b */ */ br#\"\" fn \x7b\"#;"
          ++ " m! \x7b fn '\\'' \x7d \x7d\n\x7d\n// fn"
      ∧ (Language.rust.occurrences shape.text).map (fun o => (o.group, o.text))
        = [(0, "r#fn".toList), (0, "g".toList)] := by
  refine ⟨?_, ?_⟩
  · decide +kernel
  · rw [(File.occurrences_defined shape).1]
    decide

end FunctionChurn.Source.Rust
