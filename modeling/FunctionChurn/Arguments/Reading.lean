import FunctionChurn.Arguments.Usage
import FunctionChurn.Decimal.Integer
import FunctionChurn.Path
import FunctionChurn.Text.Quoted

/-!
# Reading the command line

The words of a command line are flags, values of flags, and one path.  Reading takes two steps:
first every word is told to be a flag or plain, and then the words are consumed from left to
right.

* `Word.classify` is the first step.  A flag may be cut short as long as it stays unambiguous; what
  looks like a negative number or holds a space is plain; behind `--` everything is plain.
* `Bundle.ofUse` takes a word of flags apart, and `Arguments.consume` is the second step.
* `Arguments.read` gives the choices, or an `Exit`: the explanation that was asked for, or a
  `Complaint`.
-/

namespace FunctionChurn

/-! ## Outcomes -/

/-- **What is wrong with a command line.** -/
inductive Complaint where
  | ambiguous (word : String) (candidates : List String)
  /-- A value is missing. -/
  | missingValue (flag : Flag)
  /-- A value was given to a flag that takes none. -/
  | strayValue (flag : Flag) (value : String)
  | notInteger (flag : Flag) (value : String)
  | negative (flag : Flag) (value : String)
  | unrecognized (words : List String)
  deriving DecidableEq, Repr

/-- The sentence for a complaint. -/
def Complaint.message : Complaint → String
  | .ambiguous word candidates =>
      "ambiguous option: " ++ word ++ " could match " ++ ", ".intercalate candidates
  | .missingValue f => "argument " ++ f.name ++ ": expected one argument"
  | .strayValue f value =>
      "argument " ++ f.name ++ ": ignored explicit argument " ++ Text.quote value
  | .notInteger f value => "argument " ++ f.name ++ ": invalid integer: " ++ Text.quote value
  | .negative f value => "argument " ++ f.name ++ ": must not be negative: " ++ value
  | .unrecognized words => "unrecognized arguments: " ++ " ".intercalate words

/-- **Why a command ends before it begins.** -/
inductive Exit where
  | help
  | usage (c : Complaint)
  deriving DecidableEq, Repr

namespace Exit

/-- The status of the command. -/
def status : Exit → Int
  | help => 0
  | usage _ => 2

/-- What goes to the output. -/
def output : Exit → String
  | help => helpText
  | usage _ => ""

/-- What goes to the error stream. -/
def errors : Exit → String
  | help => ""
  | usage c => usageText ++ programName ++ ": error: " ++ c.message ++ "\n"

end Exit

/-- **The choices of a command line.** -/
structure Arguments where
  root : Option String := none
  rootOption : Option String := none
  total : Option Int := none
  skip : Option Int := none
  prefixes : List String := []
  invertMatch : List String := []
  excludeFunc : List String := []
  logLevel : Nat := 0
  logFile : Option String := none
  config : Option String := none
  noProgress : Bool := false
  deriving DecidableEq, Repr

/-! ## Words -/

/-- **A flag as it was written**: which one, the text that was written behind it in the same word, and
whether it was written without an equal sign in between. -/
structure FlagUse where
  flag : Flag
  value : Option String := none
  attached : Bool := false
  deriving DecidableEq, Repr

/-- **What a word is.** -/
inductive Word where
  | plain (text : String)
  /-- The two dashes behind which everything is plain. -/
  | dashes
  | flag (use : FlagUse)
  /-- A word that looks like a flag and is none. -/
  | unknown (text : String)
  deriving DecidableEq, Repr

namespace Word

/-- A word cut at its first equal sign. -/
def cutAtEquals (cs : List Char) : String × Option String :=
  let front := cs.takeWhile (· != '=')
  match cs.drop front.length with
  | _ :: rest => (String.ofList front, some (String.ofList rest))
  | [] => (String.ofList front, none)

/-- **The flags that a word can stand for**, with the spelling that it stands for.  A long word
can be the beginning of a spelling; a short flag can have its value behind it. -/
def candidates (cs : List Char) : List (String × FlagUse) :=
  match cs with
  | '-' :: '-' :: _ =>
      let (front, value) := cutAtEquals cs
      (Flag.spelled.filter fun p => Text.startsWith p.1 front).map fun p =>
        (p.1, { flag := p.2, value })
  | '-' :: c :: rest =>
      (Flag.spelled.filter fun p => p.1.toList = ['-', c]).map fun p =>
        (p.1, { flag := p.2, value := some (String.ofList rest), attached := true })
  | _ => []

/-- Whether a text is digits, of which there may have to be one. -/
def areDigits (needed : Bool) (cs : List Char) : Bool :=
  (!needed || !cs.isEmpty) && cs.all fun c => (Text.digitValue? c).isSome

/-- Whether a word looks like a negative number; one line feed behind it does not matter. -/
def isNegativeNumber (cs : List Char) : Bool :=
  match cs with
  | '-' :: rest =>
      let body := if rest.getLast? = some '\n' then rest.dropLast else rest
      let whole := body.takeWhile (· != '.')
      match body.drop whole.length with
      | [] => areDigits true whole
      | _ :: fraction => areDigits false whole && areDigits true fraction
  | _ => false

/-- **What a word before the two dashes is.** -/
def classify (word : String) : Except Complaint Word :=
  let cs := word.toList
  match cs with
  | '-' :: _ :: _ =>
      match Flag.ofSpelling? word with
      | some f => .ok (.flag { flag := f })
      | none =>
          let (front, value) := cutAtEquals cs
          match value, Flag.ofSpelling? front with
          | some v, some f => .ok (.flag { flag := f, value := some v })
          | _, _ =>
              match candidates cs with
              | [(_, use)] => .ok (.flag use)
              | [] =>
                  if isNegativeNumber cs || cs.contains ' ' then .ok (.plain word)
                  else .ok (.unknown word)
              | several => .error (.ambiguous word (several.map Prod.fst))
  | _ => .ok (.plain word)

/-- **What the words of a command line are.** -/
def classifyAll : List String → Except Complaint (List Word)
  | [] => .ok []
  | word :: rest =>
      if word = "--" then .ok (.dashes :: rest.map .plain)
      else do
        let w ← classify word
        return w :: (← classifyAll rest)

end Word

/-! ## Bundles

Short flags that take no value can share a word, and the last flag of a word can have its value in
it, with or without an equal sign.  From the first letter that is no flag on, the rest of the word counts
as a word that is none.  Older parsers kept the equal sign in the value and refused an unknown letter at
once; the reading here is the one that replaced it.  A value in the word of its flag is taken as it is
written, two dashes among them.
-/

/-- **How a word of flags ends.** -/
inductive BundleEnd where
  | done
  /-- With a flag and its value. -/
  | valued (flag : Flag) (value : String)
  /-- With a flag whose value must be the next word. -/
  | awaiting (flag : Flag)
  /-- With letters that are no flags. -/
  | unknown (text : String)
  deriving DecidableEq, Repr

/-- **The flags of one word**: those without a value, and how the word ends. -/
structure Bundle where
  flags : List Flag
  last : BundleEnd
  deriving DecidableEq, Repr

namespace Bundle

/-- How a word ends with a flag that takes a value, given what is written behind it. -/
def valueEnd (f : Flag) : List Char → BundleEnd
  | [] => .awaiting f
  | '=' :: value => .valued f (String.ofList value)
  | value => .valued f (String.ofList value)

/-- The flags of a word from one on that takes no value, given what is written behind it. -/
def behind (f : Flag) : List Char → Except Complaint Bundle
  | [] => .ok ⟨[f], .done⟩
  | '-' :: more => .error (.strayValue f (String.ofList ('-' :: more)))
  | '=' :: value => .error (.strayValue f (String.ofList value))
  | c :: more =>
      match Flag.ofSpelling? (String.ofList ['-', c]) with
      | none => .ok ⟨[f], .unknown (String.ofList ('-' :: c :: more))⟩
      | some g =>
          if g.takesValue then .ok ⟨[f], valueEnd g more⟩
          else (behind g more).map fun b => { b with flags := f :: b.flags }

/-- **The flags of a word.** -/
def ofUse (use : FlagUse) : Except Complaint Bundle :=
  match use.value, use.flag.takesValue with
  | none, true => .ok ⟨[], .awaiting use.flag⟩
  | none, false => .ok ⟨[use.flag], .done⟩
  | some v, true => .ok ⟨[], .valued use.flag v⟩
  | some v, false =>
      if use.attached then behind use.flag v.toList else .error (.strayValue use.flag v)

end Bundle

/-! ## Consuming -/

namespace Arguments

/-- A count as it was written on the command line. -/
def count (f : Flag) (value : String) : Except Exit Int :=
  match Integer.read? value with
  | none => .error (.usage (.notInteger f value))
  | some n => if n < 0 then .error (.usage (.negative f value)) else .ok n

/-- **The choices after a flag**, given its value if it has one. -/
def take (a : Arguments) (f : Flag) (value : String) : Except Exit Arguments :=
  match f with
  | .help => .error .help
  | .root => .ok { a with rootOption := some value }
  | .total => (count f value).map fun n => { a with total := some n }
  | .skip => (count f value).map fun n => { a with skip := some n }
  | .pathPrefix => .ok { a with prefixes := a.prefixes ++ [value] }
  | .invertMatch => .ok { a with invertMatch := a.invertMatch ++ [value] }
  | .excludeFunc => .ok { a with excludeFunc := a.excludeFunc ++ [value] }
  | .logLevel => .ok { a with logLevel := a.logLevel + 1 }
  | .logFile => .ok { a with logFile := some (Path.tidy value) }
  | .config => .ok { a with config := some (Path.tidy value) }
  | .noProgress => .ok { a with noProgress := true }

/-- The choices after flags without a value. -/
def takeAll (a : Arguments) : List Flag → Except Exit Arguments
  | [] => .ok a
  | f :: rest => do (← a.take f "").takeAll rest

/-- Whether the path was met. -/
inductive RootState where
  | awaited
  /-- It was the last word. -/
  | justMet
  | met
  deriving DecidableEq, Repr

/-- **The choices of a list of words.**  The first plain word is the path; two dashes are dropped
before it and directly behind it.  What is left over at the end is complained about. -/
def consume (a : Arguments) (state : RootState) (extras : List String) :
    List Word → Except Exit Arguments
  | [] => if extras = [] then .ok a else .error (.usage (.unrecognized extras))
  | .plain s :: rest =>
      if state = .awaited then consume { a with root := some s } .justMet extras rest
      else consume a .met (extras ++ [s]) rest
  | .dashes :: rest =>
      match state with
      | .awaited => consume a .awaited extras rest
      | .justMet => consume a .met extras rest
      | .met => consume a .met (extras ++ ["--"]) rest
  | .unknown s :: rest =>
      consume a (if state = .justMet then .met else state) (extras ++ [s]) rest
  | .flag use :: rest =>
      let state := if state = .justMet then .met else state
      match Bundle.ofUse use with
      | .error c => .error (.usage c)
      | .ok ⟨flags, .done⟩ => do consume (← a.takeAll flags) state extras rest
      | .ok ⟨flags, .unknown s⟩ => do consume (← a.takeAll flags) state (extras ++ [s]) rest
      | .ok ⟨flags, .valued f v⟩ => do
          consume (← (← a.takeAll flags).take f v) state extras rest
      | .ok ⟨flags, .awaiting f⟩ =>
          match rest with
          | .plain v :: rest => do consume (← (← a.takeAll flags).take f v) state extras rest
          | _ => .error (.usage (.missingValue f))

/-- **The choices of a command line.** -/
def read (words : List String) : Except Exit Arguments :=
  match Word.classifyAll words with
  | .error c => .error (.usage c)
  | .ok ws => consume {} .awaited [] ws

end Arguments

end FunctionChurn
