import FunctionChurn.Source.Token

/-!
# Brackets as a forest

Declarations are recognised by what stands at one level of brackets, so the tokens of a file are put
into a forest: a bracket pair with all that is in it is one tree.

* `Forest` is a row of trees, each a token or a bracketed group.
* `Forest.tokens` and `Forest.written` read a forest back, and `Forest.written` gives the very
  text of the file.
* `Forest.ofTokens` builds the forest.  It is total: a bracket without a partner is a token like any
  other, so that no token is lost (`Forest.tokens_ofTokens`).

The forest is grown from the last token to the first.  A closing bracket starts a new row and puts
the row behind it aside; the opening bracket that is met later fetches it.
-/

namespace FunctionChurn.Source

/-- **A row of tokens and bracketed groups.** -/
inductive Forest where
  | nil
  | leaf (token : Token) (rest : Forest)
  | group (opening : Token) (inner : Forest) (closing : Token) (rest : Forest)

namespace Forest

/-! ## Reading back -/

/-- The tokens of a forest, from left to right. -/
def tokens : Forest → List Token
  | nil => []
  | leaf t rest => t :: rest.tokens
  | group o inner c rest => o :: (inner.tokens ++ c :: rest.tokens)

/-- A forest as it stands in the file. -/
def written (f : Forest) : List Char := f.tokens.flatMap Token.written

/-- One row behind another. -/
def append : Forest → Forest → Forest
  | nil, g => g
  | leaf t rest, g => leaf t (rest.append g)
  | group o inner c rest, g => group o inner c (rest.append g)

theorem tokens_append : ∀ f g : Forest, (f.append g).tokens = f.tokens ++ g.tokens
  | nil, _ => rfl
  | leaf t rest, g => by simp [append, tokens, tokens_append rest g]
  | group o inner c rest, g => by simp [append, tokens, tokens_append rest g]

/-! ## Growing -/

/-- Whether a token is an opening bracket. -/
def opens (t : Token) : Bool := t.isMark "(" || t.isMark "[" || t.isMark "\x7b"

/-- Whether a token is a closing bracket. -/
def closes (t : Token) : Bool := t.isMark ")" || t.isMark "]" || t.isMark "\x7d"

/-- Whether two brackets are of one shape. -/
def pairs (o c : Token) : Bool :=
  (o.isMark "(" && c.isMark ")") || (o.isMark "[" && c.isMark "]")
    || (o.isMark "\x7b" && c.isMark "\x7d")

/-- **A forest in the making**: the row that grows to the left, and the closing brackets to its
right that are still open, the nearest first, each with the row behind it. -/
structure Growth where
  row : Forest
  waiting : List (Token × Forest)

/-- The growth with one more token at its left. -/
def Growth.push (t : Token) (g : Growth) : Growth :=
  if closes t then ⟨nil, (t, g.row) :: g.waiting⟩
  else match g.waiting with
    | (c, behind) :: others =>
        if pairs t c then ⟨group t g.row c behind, others⟩ else ⟨leaf t g.row, g.waiting⟩
    | [] => ⟨leaf t g.row, []⟩

/-- A row with the closing brackets that found no partner. -/
def finish (row : Forest) : List (Token × Forest) → Forest
  | [] => row
  | (c, behind) :: others => finish (row.append (leaf c behind)) others

/-- **The forest of a list of tokens.** -/
def ofTokens (ts : List Token) : Forest :=
  let g := ts.foldr Growth.push ⟨nil, []⟩
  finish g.row g.waiting

/-! ## Nothing is lost -/

/-- The tokens of a growth, from left to right. -/
def Growth.tokens (g : Growth) : List Token :=
  g.row.tokens ++ g.waiting.flatMap fun w => w.1 :: w.2.tokens

theorem Growth.tokens_push (t : Token) (g : Growth) : (g.push t).tokens = t :: g.tokens := by
  obtain ⟨row, waiting⟩ := g
  unfold Growth.push
  split
  · simp [Growth.tokens, Forest.tokens]
  · cases waiting with
    | nil => simp [Growth.tokens, Forest.tokens]
    | cons w others =>
      obtain ⟨c, behind⟩ := w
      dsimp only
      split <;> simp [Growth.tokens, Forest.tokens]

theorem tokens_finish : ∀ (row : Forest) (waiting : List (Token × Forest)),
    (finish row waiting).tokens = row.tokens ++ waiting.flatMap fun w => w.1 :: w.2.tokens
  | _, [] => by simp [finish]
  | row, (c, behind) :: others => by
      rw [finish, tokens_finish, tokens_append]
      simp [tokens]

theorem tokens_foldr_push (ts : List Token) :
    (ts.foldr Growth.push ⟨nil, []⟩).tokens = ts := by
  induction ts with
  | nil => rfl
  | cons t ts ih => rw [List.foldr_cons, Growth.tokens_push, ih]

/-- **A forest holds the tokens it was built from**, in their order. -/
theorem tokens_ofTokens (ts : List Token) : (ofTokens ts).tokens = ts := by
  rw [ofTokens, tokens_finish]
  exact tokens_foldr_push ts

end Forest

end FunctionChurn.Source
