import FunctionChurn.Shell.Word
import FunctionChurn.Text.Utf8

/-!
# What words stand for

* `Shell` is the state of a script that runs: its arguments and parameters, what it has printed, and
  how its last command ended.
* `Shell.text` is the text that a word stands for, `Shell.fields` the several texts of a word that
  is not kept together by quotes.
* `Shell.pattern` is the pattern of a word, and `Shell.fits` tells whether a text is of it.
-/

namespace FunctionChurn

/-- **A script that runs.** -/
structure Shell where
  /-- The script, by the name it was called by. -/
  name : List Char
  arguments : List (List Char)
  parameters : List (String × List Char) := []
  output : Bytes := []
  status : Nat := 0
  /-- Whether the script has ended itself. -/
  ended : Bool := false
  /-- Whether what is printed, and what is complained, is kept. -/
  keepsOutput : Bool := true
  keepsErrors : Bool := false
  deriving DecidableEq, Repr

namespace Shell

/-! ## Parameters -/

/-- Texts with a space between them. -/
def spaced (texts : List (List Char)) : List Char := (texts.intersperse [' ']).flatten

/-- A number in decimal. -/
def decimal (n : Nat) : List Char := Nat.toDigits 10 n

/-- **The value of a parameter**; of one that was never set, nothing. -/
def parameter (s : Shell) (name : String) : List Char :=
  match name with
  | "#" => decimal s.arguments.length
  | "?" => decimal s.status
  | "@" => spaced s.arguments
  | "*" => spaced s.arguments
  | "0" => s.name
  | _ =>
      match name.toNat? with
      | some n => (s.arguments[n - 1]?).getD []
      | none => ((s.parameters.find? fun p => p.1 == name).map Prod.snd).getD []

/-- A parameter set. -/
def setParameter (s : Shell) (name : String) (value : List Char) : Shell :=
  { s with parameters := (name, value) :: s.parameters.filter fun p => p.1 != name }

/-! ## Texts -/

/-- The text that a piece stands for. -/
def pieceText (s : Shell) : Piece → List Char
  | .char c _ => [c]
  | .quotes => []
  | .parameter name _ => s.parameter name

/-- **The text that a word stands for.** -/
def text (s : Shell) (w : Word) : List Char := w.flatMap s.pieceText

/-- The fields of a word so far, the last one first, and the field that is not yet at its end. -/
structure Fields where
  done : List (List Char) := []
  current : Option (List Char) := none

namespace Fields

/-- Characters at the end of the current field. -/
def push (f : Fields) (cs : List Char) : Fields :=
  { f with current := some (f.current.getD [] ++ cs) }

/-- The current field at its end. -/
def cut (f : Fields) : Fields :=
  match f.current with
  | some field => ⟨field :: f.done, none⟩
  | none => f

/-- The characters of a value that is split at blanks. -/
def split (f : Fields) (value : List Char) : Fields :=
  value.foldl (fun f c => if c == ' ' || c == '\t' || c == '\n' then f.cut else f.push [c]) f

/-- Several values, each a field of its own. -/
def several (f : Fields) : List (List Char) → Fields
  | [] => f
  | [value] => f.push value
  | value :: rest => several (f.push value).cut rest

/-- All fields in order. -/
def all (f : Fields) : List (List Char) := f.cut.done.reverse

end Fields

/-- A piece added to fields. -/
def addPiece (s : Shell) (f : Fields) : Piece → Fields
  | .char c _ => f.push [c]
  | .quotes => f.push []
  | .parameter "@" true => f.several s.arguments
  | .parameter name true => f.push (s.parameter name)
  | .parameter name false => f.split (s.parameter name)

/-- The pieces of a word without the quotes around nothing but all arguments, which are no field if
there are none. -/
def fieldPieces : Word → Word
  | [.quotes, .parameter "@" true] => [.parameter "@" true]
  | w => w

/-- **The fields that a word stands for.** -/
def fields (s : Shell) (w : Word) : List (List Char) :=
  ((fieldPieces w).foldl s.addPiece {}).all

/-- The fields of several words. -/
def allFields (s : Shell) (ws : List Word) : List (List Char) := ws.flatMap s.fields

/-! ## Patterns -/

/-- **A piece of a pattern.** -/
inductive Glob where
  | exactly (c : Char)
  | one
  | many
  /-- One of some ranges of characters, or of none of them. -/
  | among (negated : Bool) (ranges : List (Char × Char))
  deriving DecidableEq, Repr

/-- The ranges between brackets. -/
def ranges : List Char → List (Char × Char)
  | [] => []
  | a :: '-' :: b :: rest => (a, b) :: ranges rest
  | a :: rest => (a, a) :: ranges rest

/-- The piece for what is between brackets. -/
def bracketed : List Char → Glob
  | '!' :: rest => .among true (ranges rest)
  | cs => .among false (ranges cs)

/-- **The pattern of characters**, each quoted or not. -/
def globs : (fuel : Nat) → List (Char × Bool) → List Glob
  | 0, _ => []
  | _, [] => []
  | n + 1, (c, true) :: rest => .exactly c :: globs n rest
  | n + 1, ('*', false) :: rest => .many :: globs n rest
  | n + 1, ('?', false) :: rest => .one :: globs n rest
  | n + 1, ('[', false) :: rest =>
      let inside := rest.takeWhile fun p => p.1 != ']'
      match rest.drop inside.length with
      | _ :: behind =>
          if inside = [] then .exactly '[' :: globs n rest
          else bracketed (inside.map Prod.fst) :: globs n behind
      | [] => .exactly '[' :: globs n rest
  | n + 1, (c, false) :: rest => .exactly c :: globs n rest

/-- The characters that a piece of a pattern stands for. -/
def patternChars (s : Shell) : Piece → List (Char × Bool)
  | .char c quoted => [(c, quoted)]
  | .quotes => []
  | .parameter name quoted => (s.parameter name).map (·, quoted)

/-- **The pattern of a word.** -/
def pattern (s : Shell) (w : Word) : List Glob :=
  let cs := w.flatMap s.patternChars
  globs (cs.length + 1) cs

/-- Whether a pattern fits some end of a text. -/
def fitsSomeEnd (fits : List Char → Bool) : List Char → Bool
  | [] => fits []
  | c :: rest => fits (c :: rest) || fitsSomeEnd fits rest

/-- **Whether a text is of a pattern.** -/
def fits : List Glob → List Char → Bool
  | [], cs => cs.isEmpty
  | .many :: ps, cs => fitsSomeEnd (fits ps) cs
  | _ :: _, [] => false
  | .exactly d :: ps, c :: cs => c == d && fits ps cs
  | .one :: ps, _ :: cs => fits ps cs
  | .among negated rs :: ps, c :: cs =>
      (rs.any fun r => r.1 ≤ c && c ≤ r.2) != negated && fits ps cs

end Shell

end FunctionChurn
