import FunctionChurn.Text.Blank

/-!
# Words of a shell script

A script is a row of words and marks.  A word may hold quoted parts and parameters; whether a
character was quoted decides later what it means, so it is kept with the character.

* `Piece` is what a word is made of, `Word` the whole of it.
* `Lexeme` is a word, a mark, or the beginning of a redirection.
* `lexemes` takes a script apart; none if a quote is not closed, or something is used that scripts
  here must do without: commands and sums in words.
-/

namespace FunctionChurn.Shell

/-! ## What scripts are made of -/

/-- **A piece of a word.** -/
inductive Piece where
  | char (c : Char) (quoted : Bool)
  /-- Quotes were opened: the word is there even if nothing else is in it. -/
  | quotes
  | parameter (name : String) (quoted : Bool)
  deriving DecidableEq, Repr

/-- **A word.** -/
abbrev Word := List Piece

/-- A mark between words. -/
inductive Mark where
  | lineEnd
  | semicolon
  | doubleSemicolon
  | andThen
  | orElse
  | bar
  | openParen
  | closeParen
  deriving DecidableEq, Repr

/-- **A lexeme.** -/
inductive Lexeme where
  | word (w : Word)
  | mark (m : Mark)
  /-- The stream of this number goes elsewhere: where another stream goes, or to a file. -/
  | redirect (stream : Nat) (copies : Bool)
  deriving DecidableEq, Repr

namespace Word

/-- The text of a word without quotes and parameters. -/
def plain? : Word → Option (List Char)
  | [] => some []
  | .char c false :: rest => (plain? rest).map (c :: ·)
  | _ => none

/-- Whether a word is a given one, unquoted. -/
def isPlain (w : Word) (text : String) : Bool := plain? w == some text.toList

end Word

/-! ## Reading -/

/-- A character that ends an unquoted word. -/
def endsWord (c : Char) : Bool := [' ', '\t', '\n', ';', '&', '|', '(', ')', '<', '>'].contains c

/-- Whether a character may stand in a name. -/
def isNameChar (c : Char) : Bool := c.isAlphanum || c == '_'

/-- The names of parameters that are one sign. -/
def signs : List Char := ['@', '*', '#', '?', '$', '!', '-']

/-- **The name behind a dollar sign**, and what is left; the empty name if it is just a dollar. -/
def parameterName (cs : List Char) : Option (List Char × List Char) :=
  match cs with
  | '(' :: _ => none
  | '\x7b' :: rest =>
      let name := rest.takeWhile fun c => isNameChar c || signs.contains c
      match rest.drop name.length with
      | '\x7d' :: rest => if name = [] then none else some (name, rest)
      | _ => none
  | c :: rest =>
      if c.isDigit || signs.contains c then some ([c], rest)
      else
        let name := cs.takeWhile isNameChar
        some (name, cs.drop name.length)
  | [] => some ([], [])

/-- What a backslash takes its meaning from between double quotes. -/
def isEscapable (c : Char) : Bool := c == '$' || c == '"' || c == '\\' || c == '\x60'

/-- **The pieces of a word from here on**, inside double quotes or not, and what is left. -/
def pieces : (fuel : Nat) → (inQuotes : Bool) → List Char → Option (Word × List Char)
  | 0, _, _ => none
  | n + 1, inQuotes, cs =>
      let more (piece : Option Piece) (rest : List Char) : Option (Word × List Char) :=
        (pieces n inQuotes rest).map fun (w, left) => (piece.toList ++ w, left)
      match cs with
      | [] => if inQuotes then none else some ([], [])
      | '\x60' :: _ => none
      | '$' :: rest =>
          match parameterName rest with
          | none => none
          | some ([], rest) => more (some (.char '$' true)) rest
          | some (name, rest) => more (some (.parameter (String.ofList name) inQuotes)) rest
      | '\\' :: '\n' :: rest => more none rest
      | '\\' :: c :: rest =>
          if inQuotes && !isEscapable c then more (some (.char '\\' true)) (c :: rest)
          else more (some (.char c true)) rest
      | '"' :: rest =>
          if inQuotes then some ([], rest)
          else
            match pieces n true rest with
            | none => none
            | some (w, rest) => (pieces n false rest).map fun (v, left) => (.quotes :: w ++ v, left)
      | c :: rest =>
          if inQuotes then more (some (.char c true)) rest
          else if c == '\'' then
            let text := rest.takeWhile (· != '\'')
            match rest.drop text.length with
            | [] => none
            | _ :: rest => (pieces n false rest).map fun (v, left) =>
                (.quotes :: text.map (.char · true) ++ v, left)
          else if endsWord c then some ([], cs)
          else more (some (.char c false)) rest

/-- A redirection from here on, if there is one, and what is left. -/
def redirection? : List Char → Option (Lexeme × List Char)
  | '>' :: '&' :: rest => some (.redirect 1 true, rest)
  | '>' :: '>' :: rest => some (.redirect 1 false, rest)
  | '>' :: rest => some (.redirect 1 false, rest)
  | '<' :: rest => some (.redirect 0 false, rest)
  | d :: '>' :: '&' :: rest =>
      if d.isDigit then some (.redirect (d.toNat - 48) true, rest) else none
  | d :: '>' :: '>' :: rest =>
      if d.isDigit then some (.redirect (d.toNat - 48) false, rest) else none
  | d :: '>' :: rest =>
      if d.isDigit then some (.redirect (d.toNat - 48) false, rest) else none
  | _ => none

/-- A mark from here on, if there is one, and what is left. -/
def mark? : List Char → Option (Mark × List Char)
  | '\n' :: rest => some (.lineEnd, rest)
  | ';' :: ';' :: rest => some (.doubleSemicolon, rest)
  | ';' :: rest => some (.semicolon, rest)
  | '&' :: '&' :: rest => some (.andThen, rest)
  | '|' :: '|' :: rest => some (.orElse, rest)
  | '|' :: rest => some (.bar, rest)
  | '(' :: rest => some (.openParen, rest)
  | ')' :: rest => some (.closeParen, rest)
  | _ => none

/-- The lexemes from here on. -/
def lexemesFrom : (fuel : Nat) → List Char → Option (List Lexeme)
  | 0, _ => none
  | n + 1, cs =>
      match cs with
      | [] => some []
      | ' ' :: rest => lexemesFrom n rest
      | '\t' :: rest => lexemesFrom n rest
      | '\\' :: '\n' :: rest => lexemesFrom n rest
      | '#' :: rest => lexemesFrom n (rest.dropWhile (· != '\n'))
      | _ =>
          match redirection? cs, mark? cs with
          | some (l, rest), _ => (lexemesFrom n rest).map (l :: ·)
          | none, some (m, rest) => (lexemesFrom n rest).map (.mark m :: ·)
          | none, none =>
              match pieces (cs.length + 1) false cs with
              | some (p :: w, rest) => (lexemesFrom n rest).map (.word (p :: w) :: ·)
              | _ => none

/-- **The lexemes of a script.** -/
def lexemes (script : List Char) : Option (List Lexeme) := lexemesFrom (script.length + 1) script

end FunctionChurn.Shell
