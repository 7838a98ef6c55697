import FunctionChurn.Source.Lexeme

/-!
# Tokens and where they stand

A token is a lexeme that matters, with the blanks and comments before it kept as its `gap`, and with
its place: how many bytes of the file come before it, and which line it begins on.  Only a line feed
ends a line.

* `Token.place` turns lexemes into tokens.
* `Token.written` is a token as it stands in the file, gap included.
* `Occurrence` is what a search reports: a text with its place and its group.
-/

namespace FunctionChurn.Source

/-- The number of bytes that characters take in a file. -/
def byteLength (cs : List Char) : Nat := cs.foldr (fun c n => c.utf8Size + n) 0

/-- The number of line feeds among characters. -/
def lineFeeds (cs : List Char) : Nat := cs.count '\n'

/-- **A lexeme that matters**, with what was skipped before it and the place where it begins. -/
structure Token where
  gap : List Char
  kind : LexemeKind
  text : List Char
  offset : Nat
  line : Nat
  deriving DecidableEq, Repr

namespace Token

/-- Whether a lexeme is left out: blanks and comments are. -/
def isTrivia : LexemeKind → Bool
  | .blank | .comment => true
  | _ => false

/-- **Lexemes as tokens**, given what was skipped just before them, how many bytes come before them,
and the line they begin on. -/
def place (gap : List Char) (offset line : Nat) : List Lexeme → List Token
  | [] => []
  | x :: rest =>
      let offset' := offset + byteLength x.text
      let line' := line + lineFeeds x.text
      if isTrivia x.kind then place (gap ++ x.text) offset' line' rest
      else ⟨gap, x.kind, x.text, offset, line⟩ :: place [] offset' line' rest

/-- The tokens of a file. -/
def ofLexemes (xs : List Lexeme) : List Token := place [] 0 1 xs

/-- A token as it stands in the file, with what was skipped before it. -/
def written (t : Token) : List Char := t.gap ++ t.text

/-- Whether a token is a given word. -/
def isTheWord (t : Token) (word : String) : Bool := t.kind == .word && t.text == word.toList

/-- Whether a token is a given mark. -/
def isMark (t : Token) (mark : String) : Bool := t.kind == .mark && t.text == mark.toList

/-- Whether a token is some word. -/
def isWord (t : Token) : Bool := t.kind == .word

/-- Whether a token begins on a later line than the token before it ends on. -/
def startsLine (t : Token) : Bool := t.gap.contains '\n'

end Token

/-- **What a search reports**: a text, the place where it begins, and which part of a declaration
it is. -/
structure Occurrence where
  group : Int
  text : List Char
  offset : Nat
  line : Nat
  deriving DecidableEq, Repr

/-- The occurrence of a token. -/
def Token.occurrence (t : Token) (group : Int) : Occurrence := ⟨group, t.text, t.offset, t.line⟩

end FunctionChurn.Source
