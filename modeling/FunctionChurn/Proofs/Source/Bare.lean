import FunctionChurn.Proofs.Source.Reading

/-!
# Tokens without their places

Where a token stands in its file does not matter to a search in Rust or in Lua, and neither do the blanks
before it.  So a search may be looked at with all that taken off: it finds the same.

* `Token.bare`, `Lexeme.bare`, `Occurrence.bare` and `Forest.bare` are without places and gaps.
* `Lexis.map_bare_ofLexemes`: the bare tokens of a file are its lexemes that matter, and by
  **`Lexis.map_bare_pieces`** these are what the file was written with.
* **`Forest.ofTokens_bare`**: brackets are put in pairs by what they are, not by where they stand.
-/

namespace FunctionChurn.Source

/-! ## Tokens -/

/-- A token without its gap and its place. -/
def Token.bare (t : Token) : Token := ⟨[], t.kind, t.text, 0, 0⟩

/-- A lexeme as a token without a place. -/
def Lexeme.bare (x : Lexeme) : Token := ⟨[], x.kind, x.text, 0, 0⟩

/-- An occurrence without its place. -/
def Occurrence.bare (o : Occurrence) : Occurrence := ⟨o.group, o.text, 0, 0⟩

@[simp] lemma Token.isTheWord_bare (t : Token) (word : String) :
    t.bare.isTheWord word = t.isTheWord word := rfl

@[simp] lemma Token.isMark_bare (t : Token) (mark : String) : t.bare.isMark mark = t.isMark mark := rfl

@[simp] lemma Token.isWord_bare (t : Token) : t.bare.isWord = t.isWord := rfl

@[simp] lemma Token.occurrence_bare (t : Token) (group : Int) :
    t.bare.occurrence group = (t.occurrence group).bare := rfl

/-- The occurrence of a name, without its place. -/
def Occurrence.named (name : List Char) : Occurrence := ⟨0, name, 0, 0⟩

/-- What is found keeps its group and its text. -/
lemma map_group_text_of_bare {os : List Occurrence} {names : List (List Char)}
    (h : os.map Occurrence.bare = names.map Occurrence.named) :
    os.map (fun o => (o.group, o.text)) = names.map fun name => (0, name) := by
  have hbare : os.map (fun o => (o.group, o.text))
      = (os.map Occurrence.bare).map fun o => (o.group, o.text) := by
    rw [List.map_map]
    rfl
  rw [hbare, h, List.map_map]
  rfl

/-- Tokens are the lexemes that matter, wherever they are placed. -/
lemma Token.map_bare_place : ∀ (gap : List Char) (offset line : Nat) (xs : List Lexeme),
    (place gap offset line xs).map bare = (xs.filter fun x => !isTrivia x.kind).map Lexeme.bare
  | _, _, _, [] => rfl
  | gap, offset, line, x :: rest => by
      rw [place]
      split
      · next h => rw [List.filter_cons_of_neg (by simp [h]), map_bare_place _ _ _ rest]
      · next h =>
          rw [List.filter_cons_of_pos (by simp [h]), List.map_cons, List.map_cons,
            map_bare_place [] _ _ rest]
          rfl

/-- **The tokens of a file** are the lexemes that matter behind its opening. -/
theorem Lexis.map_bare_ofLexemes (l : Lexis) {front rest : List Char}
    (h : l.openingLength (front ++ rest) = front.length) :
    (Token.ofLexemes (l.lexemes (front ++ rest))).map Token.bare
      = (l.visible rest).map Lexeme.bare := by
  have hblank : Token.isTrivia .blank := rfl
  rw [lexemes, h, Token.ofLexemes, Token.map_bare_place, List.filter_cons_of_neg (by simp [hblank]),
    List.drop_left, visible]

/-- **The tokens of pieces that are kept apart** are the pieces. -/
theorem Lexis.map_bare_pieces {l : Lexis} {G S : Type} {gapText : G → List Char} {part : S → Script.Part}
    (hgap : ∀ g, l.Skips (gapText g)) (hpart : ∀ s, (part s).Read l) {front ending : List Char}
    {ps : List (Script.Piece G S)}
    (hopening : l.openingLength (front ++ (Script.text gapText part ps ++ ending)) = front.length)
    (hapart : Script.Apart gapText part ending ps) (hending : l.visible ending = []) :
    (Token.ofLexemes (l.lexemes (front ++ (Script.text gapText part ps ++ ending)))).map Token.bare
      = ps.map fun p => (part p.symbol).lexeme.bare := by
  rw [l.map_bare_ofLexemes hopening, Script.visible_pieces hgap hpart ending ps hapart, hending,
    List.append_nil, List.map_map]
  rfl

/-! ## Forests -/

namespace Forest

/-- A forest of tokens without their places. -/
def bare : Forest → Forest
  | nil => nil
  | leaf t rest => leaf t.bare rest.bare
  | group o inner c rest => group o.bare inner.bare c.bare rest.bare

lemma bare_append : ∀ f g : Forest, (f.append g).bare = f.bare.append g.bare
  | nil, _ => rfl
  | leaf t rest, g => by rw [append, bare, bare_append rest g, bare, append]
  | group o inner c rest, g => by rw [append, bare, bare_append rest g, bare, append]

/-- A growth of tokens without their places. -/
def Growth.bare (g : Growth) : Growth :=
  ⟨g.row.bare, g.waiting.map fun w => (w.1.bare, w.2.bare)⟩

lemma closes_bare (t : Token) : closes t.bare = closes t := rfl

lemma pairs_bare (o c : Token) : pairs o.bare c.bare = pairs o c := rfl

/-- A token grows a forest by what it is. -/
lemma Growth.bare_push (t : Token) (g : Growth) : (g.push t).bare = g.bare.push t.bare := by
  obtain ⟨row, waiting⟩ := g
  unfold push
  rw [closes_bare]
  split
  · rfl
  · cases waiting with
    | nil => rfl
    | cons w others =>
        simp only [bare, List.map_cons, pairs_bare]
        split <;> rfl

lemma bare_finish : ∀ (row : Forest) (waiting : List (Token × Forest)),
    (finish row waiting).bare = finish row.bare (waiting.map fun w => (w.1.bare, w.2.bare))
  | _, [] => rfl
  | row, (c, behind) :: others => by
      rw [finish, bare_finish, bare_append]
      rfl

/-- **The forest of some tokens is put together by what they are.** -/
theorem ofTokens_bare (ts : List Token) : ofTokens (ts.map Token.bare) = (ofTokens ts).bare := by
  have hgrowth : (ts.map Token.bare).foldr Growth.push ⟨nil, []⟩
      = (ts.foldr Growth.push ⟨nil, []⟩).bare := by
    induction ts with
    | nil => rfl
    | cons t ts ih => rw [List.map_cons, List.foldr_cons, List.foldr_cons, ih, Growth.bare_push]
  rw [ofTokens, hgrowth, ofTokens, bare_finish]
  rfl

end Forest

end FunctionChurn.Source
