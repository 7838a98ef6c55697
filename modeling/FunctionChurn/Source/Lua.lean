import FunctionChurn.Source.Token

/-!
# Functions of Lua

A function statement names its function by a path, and only the last name of the path is reported.
The word `function` is a keyword, so every occurrence of it outside comments and strings begins a
function; the ones without a name are passed over.

* `Lua.lexis` are the lexical rules: long brackets of any level for comments and strings, quoted
  strings, and names with letters outside ASCII.
* `Lua.named` finds the named functions.
-/

namespace FunctionChurn.Source.Lua

/-! ## Lexical rules -/

/-- The level of a long bracket that opens here, between its two square brackets. -/
def longLevel? : List Char → Option Nat
  | '[' :: rest =>
      let level := runLength (· = '=') rest
      match rest.drop level with
      | '[' :: _ => some level
      | _ => none
  | _ => none

/-- The closing bracket of a level. -/
def longClose (level : Nat) : List Char := ']' :: (List.replicate level '=' ++ [']'])

/-- The length of a long bracket with what it holds, if one opens here. -/
def longLength? (cs : List Char) : Option Nat :=
  (longLevel? cs).map fun level =>
    level + 2 + throughLength (longClose level) (cs.drop (level + 2))

/-- The marks that no name holds. -/
def markChars : List Char :=
  ['+', '-', '*', '/', '%', '^', '#', '&', '~', '|', '<', '>', '=', '(', ')', '\x7b', '\x7d',
    '[', ']', ';', ':', ',', '.', '\\', '\'', '"']

/-- Whether a name may hold a character. -/
def isNameChar (c : Char) : Bool :=
  !(Text.isSpacing c || c.toNat < 0x20 || c.toNat == 0x7f || markChars.contains c)

/-- Behind `before` characters, the length with the digits that follow; without digits, nothing. -/
def digitsBehind (before : Nat) (cs : List Char) : Nat :=
  match runLength Char.isDigit cs with
  | 0 => 0
  | n => before + n

/-- The length of an exponent, its letter being one of the two given. -/
def exponentLength (lower upper : Char) : List Char → Nat
  | e :: rest =>
      if e = lower ∨ e = upper then
        match rest with
        | '+' :: more => digitsBehind 2 more
        | '-' :: more => digitsBehind 2 more
        | _ => digitsBehind 1 rest
      else 0
  | [] => 0

/-- The length of digits with a point among them, where `..` is no point. -/
def fractionLength (p : Char → Bool) (cs : List Char) : Nat :=
  let whole := runLength p cs
  match cs.drop whole with
  | '.' :: '.' :: _ => whole
  | '.' :: rest => whole + 1 + runLength p rest
  | _ => whole

/-- Whether a character is a hexadecimal digit. -/
def isHexDigit (c : Char) : Bool := (Text.hexValue? c).isSome

/-- The length of a number. -/
def numberLength (cs : List Char) : Nat :=
  match cs with
  | '0' :: x :: rest =>
      if x = 'x' ∨ x = 'X' then
        let n := fractionLength isHexDigit rest
        2 + n + exponentLength 'p' 'P' (rest.drop n)
      else
        let n := fractionLength Char.isDigit cs
        n + exponentLength 'e' 'E' (cs.drop n)
  | _ =>
      let n := fractionLength Char.isDigit cs
      n + exponentLength 'e' 'E' (cs.drop n)

/-- Whether a character ends a comment that has no brackets. -/
def endsComment (c : Char) : Bool := c == '\n' || c == '\r'

/-- The first lexeme of a text. -/
def first (c : Char) (rest : List Char) : LexemeKind × Nat :=
  if Text.isSpacing c then (.blank, runLength Text.isSpacing rest)
  else if c.isDigit then (.literal, numberLength (c :: rest) - 1)
  else if isNameChar c then (.word, runLength isNameChar rest)
  else match c, rest with
    | '-', '-' :: more =>
        match longLength? more with
        | some n => (.comment, 1 + n)
        | none => (.comment, runLength (!endsComment ·) rest)
    | '[', _ =>
        match longLength? (c :: rest) with
        | some n => (.literal, n - 1)
        | none => (.mark, 0)
    | '"', _ => (.literal, quotedLength '"' rest)
    | '\'', _ => (.literal, quotedLength '\'' rest)
    | _, _ => (.mark, 0)

/-- The length of a line for the interpreter at the start of a file. -/
def opening : List Char → Nat
  | '#' :: rest => 1 + lineLength rest
  | _ => 0

/-- **The lexical rules of Lua.** -/
def lexis : Lexis := ⟨opening, first⟩

/-! ## Functions -/

/-- The last name of a path that begins with `name`. -/
def lastName (name : Token) : List Token → Token
  | sep :: next :: rest =>
      if (sep.isMark "." || sep.isMark ":") && next.isWord then lastName next rest else name
  | _ => name

/-- What a `function` names, given what follows it. -/
def namedBy : List Token → List Occurrence
  | name :: rest => if name.isWord then [(lastName name rest).occurrence 0] else []
  | [] => []

/-- The named functions among tokens. -/
def namedIn : List Token → List Occurrence
  | [] => []
  | t :: rest => (if t.isTheWord "function" then namedBy rest else []) ++ namedIn rest

/-- **The named functions of a file.** -/
def named (source : List Char) : List Occurrence :=
  namedIn (Token.ofLexemes (lexis.lexemes source))

end FunctionChurn.Source.Lua
