import FunctionChurn.Shell.Word

/-!
# Commands of a shell script

* `Command` is a command: a simple one, or one that is made of others.
* `Command.ofLexemes` reads a script; none if it is no script, or uses what scripts here must do
  without: pipes, functions, and loops that need not end.

The reading follows the grammar by recursive descent.  Each function takes a number that goes down
with every call, and no lexeme is passed by more than a few calls.
-/

namespace FunctionChurn.Shell

/-! ## Commands -/

/-- **Where a stream goes.** -/
structure Redirect where
  stream : Nat
  copies : Bool
  target : Word
  deriving DecidableEq, Repr

mutual

/-- **A command.** -/
inductive Command where
  | nothing
  | simple (values : List (String × Word)) (words : List Word)
  | both (first second : Command)
  | either (first second : Command)
  | sequel (first second : Command)
  | negation (body : Command)
  | branch (test yes no : Command)
  | choice (subject : Word) (arms : Arms)
  | each (name : String) (items : List Word) (body : Command)
  | group (body : Command)
  /-- A group that changes nothing for what is behind it. -/
  | enclosed (body : Command)
  | redirected (body : Command) (redirects : List Redirect)

/-- **The arms of a choice**, each with its patterns. -/
inductive Arms where
  | none
  | arm (patterns : List Word) (body : Command) (others : Arms)

end

/-! ## Reading -/

/-- A reading of lexemes from the front. -/
abbrev Reading (α : Type) := StateT (List Lexeme) Option α

namespace Reading

/-- The lexeme in front. -/
def peek : Reading (Option Lexeme) := return (← get).head?

/-- The lexeme in front left behind. -/
def skip : Reading Unit := modify List.tail

/-- Whether the lexeme in front is a given mark. -/
def seesMark (m : Mark) : Reading Bool := return (← peek) == some (.mark m)

/-- Whether the lexeme in front is a given word. -/
def seesWord (text : String) : Reading Bool := return match ← peek with
  | some (.word w) => w.isPlain text
  | _ => false

/-- A mark that has to be there. -/
def mark (m : Mark) : Reading Unit := do if ← seesMark m then skip else failure

/-- A word that has to be there. -/
def keyword (text : String) : Reading Unit := do if ← seesWord text then skip else failure

/-- A mark, if it is there. -/
def markIf (m : Mark) : Reading Bool := do
  if ← seesMark m then
    skip
    return true
  else return false

/-- A word of any kind. -/
def word : Reading Word := do
  match ← peek with
  | some (.word w) =>
      skip
      return w
  | _ => failure

/-- Line ends, as many as there are. -/
def lineEnds : (fuel : Nat) → Reading Unit
  | 0 => failure
  | n + 1 => do if ← markIf .lineEnd then lineEnds n

/-- The words that end a list of commands. -/
def closers : List String :=
  ["then", "else", "elif", "fi", "do", "done", "esac", String.singleton '\x7d']

/-- Whether a list of commands is at its end. -/
def atEnd : Reading Bool := return match ← peek with
  | none => true
  | some (.mark m) => m == .doubleSemicolon || m == .closeParen
  | some (.word w) => closers.any w.isPlain
  | some (.redirect ..) => false

/-- The redirections here. -/
def redirects : (fuel : Nat) → Reading (List Redirect)
  | 0 => failure
  | n + 1 => do
      match ← peek with
      | some (.redirect stream copies) =>
          skip
          let target ← word
          return ⟨stream, copies, target⟩ :: (← redirects n)
      | _ => return []

/-- The name and the value of a word that sets a parameter. -/
def setting? (w : Word) : Option (String × Word) :=
  let name := w.takeWhile fun
    | .char c false => isNameChar c
    | _ => false
  match Word.plain? name, w.drop name.length with
  | some (c :: cs), .char '=' false :: value =>
      if c.isDigit then none else some (String.ofList (c :: cs), value)
  | _, _ => none

/-- The words of a simple command, and its redirections among them. -/
def simpleParts : (fuel : Nat) → Reading (List Word × List Redirect)
  | 0 => failure
  | n + 1 => do
      match ← peek with
      | some (.word w) =>
          skip
          let (ws, rs) ← simpleParts n
          return (w :: ws, rs)
      | some (.redirect stream copies) =>
          skip
          let target ← word
          let (ws, rs) ← simpleParts n
          return (ws, ⟨stream, copies, target⟩ :: rs)
      | _ => return ([], [])

/-- The settings at the front of some words, and the words behind them. -/
def splitSettings : List Word → List (String × Word) × List Word
  | [] => ([], [])
  | w :: ws =>
      match setting? w with
      | some s => let (ss, rest) := splitSettings ws; (s :: ss, rest)
      | none => ([], w :: ws)

/-- A command with redirections, if there are any. -/
def withRedirects (c : Command) (rs : List Redirect) : Command :=
  if rs = [] then c else .redirected c rs

/-- A simple command. -/
def simple (fuel : Nat) : Reading Command := do
  let (words, rs) ← simpleParts fuel
  if words = [] ∧ rs = [] then failure
  let (values, words) := splitSettings words
  return withRedirects (.simple values words) rs

/-- The patterns of an arm, up to the parenthesis. -/
def patterns : (fuel : Nat) → Reading (List Word)
  | 0 => failure
  | n + 1 => do
      let w ← word
      if ← markIf .bar then return w :: (← patterns n)
      else
        mark .closeParen
        return [w]

/-- The items of a loop, up to the end of the line. -/
def items : (fuel : Nat) → Reading (List Word)
  | 0 => failure
  | n + 1 => do
      match ← peek with
      | some (.word w) =>
          skip
          return w :: (← items n)
      | _ => return []

mutual

/-- Commands one after the other. -/
def list : (fuel : Nat) → Reading Command
  | 0 => failure
  | n + 1 => do
      lineEnds n
      if ← atEnd then return .nothing
      let first ← andOr n
      let separated ← (do
        if ← markIf .semicolon then return true else markIf .lineEnd)
      if separated then
        lineEnds n
        if ← atEnd then return first else return .sequel first (← list n)
      else if ← atEnd then return first
      else failure

/-- Commands that depend on each other, from the left. -/
def andOr : (fuel : Nat) → Reading Command
  | 0 => failure
  | n + 1 => do andOrBehind n (← negatable n)

/-- What depends on a command. -/
def andOrBehind : (fuel : Nat) → Command → Reading Command
  | 0, _ => failure
  | n + 1, first => do
      if ← markIf .andThen then
        lineEnds n
        andOrBehind n (.both first (← negatable n))
      else if ← markIf .orElse then
        lineEnds n
        andOrBehind n (.either first (← negatable n))
      else return first

/-- A command, turned round or not. -/
def negatable : (fuel : Nat) → Reading Command
  | 0 => failure
  | n + 1 => do
      if ← seesWord "!" then
        skip
        return .negation (← negatable n)
      else command n

/-- **One command.** -/
def command : (fuel : Nat) → Reading Command
  | 0 => failure
  | n + 1 => do
      if ← seesWord "if" then
        skip
        let c ← condition n
        return withRedirects c (← redirects n)
      else if ← seesWord "case" then
        skip
        let subject ← word
        lineEnds n
        keyword "in"
        let c := Command.choice subject (← arms n)
        return withRedirects c (← redirects n)
      else if ← seesWord "for" then
        skip
        let name ← word
        keyword "in"
        let found ← items n
        let _ ← markIf .semicolon
        lineEnds n
        keyword "do"
        let body ← list n
        keyword "done"
        match name.plain? with
        | some name =>
            return withRedirects (.each (String.ofList name) found body) (← redirects n)
        | none => failure
      else if ← seesWord (String.singleton '\x7b') then
        skip
        let body ← list n
        keyword (String.singleton '\x7d')
        return withRedirects (.group body) (← redirects n)
      else if ← markIf .openParen then
        let body ← list n
        mark .closeParen
        return withRedirects (.enclosed body) (← redirects n)
      else simple n

/-- A condition and what depends on it, up to the end of it all. -/
def condition : (fuel : Nat) → Reading Command
  | 0 => failure
  | n + 1 => do
      let test ← list n
      keyword "then"
      let yes ← list n
      if ← seesWord "elif" then
        skip
        return .branch test yes (← condition n)
      else if ← seesWord "else" then
        skip
        let no ← list n
        keyword "fi"
        return .branch test yes no
      else
        keyword "fi"
        return .branch test yes .nothing

/-- The arms of a choice, up to its end. -/
def arms : (fuel : Nat) → Reading Arms
  | 0 => failure
  | n + 1 => do
      lineEnds n
      if ← seesWord "esac" then
        skip
        return .none
      else
        let _ ← markIf .openParen
        let found ← patterns n
        let body ← list n
        if ← markIf .doubleSemicolon then return .arm found body (← arms n)
        else
          keyword "esac"
          return .arm found body .none

end

end Reading

/-- Enough for the reading of so many lexemes. -/
def readingFuel (lexemes : Nat) : Nat := 8 * lexemes + 8

/-- **The command that lexemes make up.** -/
def Command.ofLexemes (ls : List Lexeme) : Option Command :=
  match (Reading.list (readingFuel ls.length)).run ls with
  | some (c, []) => some c
  | _ => none

end FunctionChurn.Shell
