import FunctionChurn.Source.Forest

/-!
# Functions of Rust

A function may be defined at any depth: in a module, an implementation, a trait, a block, and so
inside a type or a constant as well.  The search goes through the whole forest, less the parts
that are no code yet.

* `Rust.lexis` are the lexical rules: nested comments, raw strings, raw names, and the difference
  between a character and a lifetime.
* `Rust.code` is a forest without its token trees: macro definitions, macro calls and attributes.
* `Rust.defined` finds the functions that have a body.

A signature and a function with a body begin alike.  Which it is shows where the first semicolon or
the first block stands behind the name; a block between angle brackets is an argument of a type.
-/

namespace FunctionChurn.Source.Rust

/-! ## Lexical rules -/

/-- Where the reading of a comment stands: the last character may be half of a two-character mark.
-/
inductive CommentState where
  | plain
  | slash
  | star

/-- The state that a character leads to when no mark is completed by it. -/
def CommentState.after (c : Char) : CommentState :=
  if c = '/' then slash else if c = '*' then star else plain

/-- **How long a comment goes on**, `depth` comments being open inside the first one.  A slash takes
the next character along whatever it is. -/
def commentLength : CommentState → (depth : Nat) → List Char → Nat
  | _, _, [] => 0
  | .plain, depth, c :: rest => 1 + commentLength (.after c) depth rest
  | .slash, depth, c :: rest => 1 + commentLength .plain (if c = '*' then depth + 1 else depth) rest
  | .star, depth, c :: rest =>
      if c = '/' then
        match depth with
        | 0 => 1
        | d + 1 => 1 + commentLength .plain d rest
      else 1 + commentLength (if c = '*' then .star else .plain) depth rest

/-- The length of a raw string behind its `r`: as many hash signs as there are stand behind the
closing quote again. -/
def rawLength? (cs : List Char) : Option Nat :=
  let hashes := runLength (· = '#') cs
  match cs.drop hashes with
  | '"' :: rest => some (hashes + 1 + throughLength ('"' :: List.replicate hashes '#') rest)
  | _ => none

/-- The length of a raw string behind its first letter, which may be the `r` or stand before it. -/
def rawStringLength? (c : Char) (rest : List Char) : Option Nat :=
  match c, rest with
  | 'r', _ => rawLength? rest
  | 'b', 'r' :: more => (rawLength? more).map (1 + ·)
  | 'c', 'r' :: more => (rawLength? more).map (1 + ·)
  | _, _ => none

/-- The length of a word behind its first letter; a raw name has a hash sign after its `r`. -/
def wordLength (c : Char) (rest : List Char) : Nat :=
  match c, rest with
  | 'r', '#' :: d :: more =>
      if isWordChar d then 2 + runLength isWordChar more else 0
  | _, _ => runLength isWordChar rest

/-- The length of a character or of a lifetime, behind the apostrophe.  A lifetime may have a raw
name. -/
def apostropheLength : List Char → Nat
  | [] => 0
  | '\\' :: rest => quotedLength '\'' ('\\' :: rest)
  | '\'' :: _ => 1
  | _ :: '\'' :: _ => 2
  | c :: rest => if isWordChar c then 1 + wordLength c rest else 0

/-- The first lexeme of a text. -/
def first (c : Char) (rest : List Char) : LexemeKind × Nat :=
  if Text.isSpacing c then (.blank, runLength Text.isSpacing rest)
  else if isWordChar c then
    match rawStringLength? c rest with
    | some n => (.literal, n)
    | none => (.word, wordLength c rest)
  else match c, rest with
    | '/', '/' :: _ => (.comment, lineLength rest)
    | '/', '*' :: more => (.comment, 1 + commentLength .plain 0 more)
    | '"', _ => (.literal, quotedLength '"' rest)
    | '\'', _ => (.literal, apostropheLength rest)
    | '-', '>' :: _ => (.mark, 1)
    | '=', '>' :: _ => (.mark, 1)
    | '!', '=' :: _ => (.mark, 1)
    | _, _ => (.mark, 0)

/-- The length of a line for the interpreter at the start of a file.  An attribute begins with the
same two characters, and its bracket directly behind them. -/
def opening : List Char → Nat
  | '#' :: '!' :: '[' :: _ => 0
  | '#' :: '!' :: rest => 2 + lineLength rest
  | _ => 0

/-- **The lexical rules of Rust.** -/
def lexis : Lexis := ⟨opening, first⟩

/-! ## Token trees -/

/-- The words that cannot name a macro.  Words that were names in the first edition of the language,
such as `await`, can. -/
def keywords : List String :=
  ["as", "break", "const", "continue", "crate", "else", "enum", "extern", "false", "fn", "for", "if",
    "impl", "in", "let", "loop", "match", "mod", "move", "mut", "pub", "ref", "return", "self",
    "static", "struct", "super", "trait", "true", "type", "unsafe", "use", "where", "while", "yield"]

/-- Whether a token can name a macro. -/
def namesMacro (t : Token) : Bool := t.isWord && !keywords.any fun k => t.text == k.toList

/-- **How many trees behind a token belong to a token tree that it begins**: a definition by
`macro_rules`, the call of a macro, an attribute of what follows or of what it stands in. -/
def hiddenBehind (t : Token) : Forest → Option Nat
  | .leaf bang (.leaf name (.group ..)) =>
      if t.isTheWord "macro_rules" && bang.isMark "!" && name.isWord then some 3 else none
  | .leaf bang (.group o _ _ _) =>
      if bang.isMark "!" && (namesMacro t || (t.isMark "#" && o.isMark "[")) then some 2 else none
  | .group o _ _ _ => if t.isMark "#" && o.isMark "[" then some 1 else none
  | _ => none

/-- A forest without its token trees, the first `hidden` trees of it being the rest of one. -/
def codeBehind : (hidden : Nat) → Forest → Forest
  | _, .nil => .nil
  | n + 1, .leaf _ rest => codeBehind n rest
  | n + 1, .group _ _ _ rest => codeBehind n rest
  | 0, .group o inner c rest => .group o (codeBehind 0 inner) c (codeBehind 0 rest)
  | 0, .leaf t rest =>
      match hiddenBehind t rest with
      | some n => codeBehind n rest
      | none => .leaf t (codeBehind 0 rest)

/-- **The forest without its token trees**, at every level. -/
def code (f : Forest) : Forest := codeBehind 0 f

/-! ## Functions -/

/-- How a token changes the number of open angle brackets. -/
def angle (t : Token) : Int := if t.isMark "<" then 1 else if t.isMark ">" then -1 else 0

/-- **Whether a body follows**, `depth` angle brackets being open. -/
def hasBody : (depth : Int) → Forest → Bool
  | _, .nil => false
  | depth, .leaf t rest => !t.isMark ";" && hasBody (depth + angle t) rest
  | depth, .group o _ _ rest => (o.isMark "\x7b" && depth ≤ 0) || hasBody depth rest

/-- What an `fn` defines, given what follows it. -/
def definedBy : Forest → List Occurrence
  | .leaf name rest => if name.isWord && hasBody 0 rest then [name.occurrence 0] else []
  | _ => []

/-- The functions of a forest of code, at any depth. -/
def definedIn : Forest → List Occurrence
  | .nil => []
  | .leaf t rest => (if t.isTheWord "fn" then definedBy rest else []) ++ definedIn rest
  | .group _ inner _ rest => definedIn inner ++ definedIn rest

/-- **The functions of a file that have a body.** -/
def defined (source : List Char) : List Occurrence :=
  definedIn (code (Forest.ofTokens (Token.ofLexemes (lexis.lexemes source))))

end FunctionChurn.Source.Rust
