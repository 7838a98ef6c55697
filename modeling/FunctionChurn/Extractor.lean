import FunctionChurn.Element
import FunctionChurn.Disk.Fault
import FunctionChurn.Journal
import FunctionChurn.Progress
import FunctionChurn.Source.Search
import FunctionChurn.Text.Utf8

/-!
# Extractors

An extractor collects the files of one language, and then finds the functions in all of them.  Files
that cannot be read are mentioned in the log and passed over.

* `Extractor` is the state: the queued files and the terms that no reported name may hold.
* `Extractor.add` and `Extractor.filterName` change it.
* `Surveyed` is what one file gave, and `Extractor.survey` that of all queued files.
* `Extractor.extract` gives the functions, with the log records and the progress messages on the
  way.

The progress total goes up by one for each match, and down again, at once, by what is folded away
with receivers or dropped by a term.
-/

namespace FunctionChurn

/-! ## The state -/

/-- **Files of one language that wait for extraction**, and the terms to drop names by. -/
structure Extractor where
  language : Language
  files : List SourceFile := []
  filters : List String := []
  deriving DecidableEq, Repr

/-- Why an extractor refuses. -/
inductive ExtractError where
  /-- A file is of another language. -/
  | notCompatible (path : String)
  /-- There is no file to search. -/
  | noFiles
  /-- The grammar cannot be attached to a parser. -/
  | grammar (language : Language) (reason : String)
  deriving DecidableEq, Repr

/-- The sentence for a refusal. -/
def ExtractError.message : ExtractError → String
  | .notCompatible path => "File is not compatible with this parser: " ++ path
  | .noFiles => "No files have been added"
  | .grammar l reason =>
      "Can't parse file: can't set the " ++ l.label ++ " grammar: " ++ reason

namespace Extractor

/-- Whether a file is of the extractor's language. -/
def supports (x : Extractor) (f : SourceFile) : Bool := f.language = x.language

/-- **A file is queued**, if it is of the extractor's language. -/
def add (x : Extractor) (f : SourceFile) : Except ExtractError Extractor :=
  if x.supports f then .ok { x with files := x.files ++ [f] } else .error (.notCompatible f.path)

/-- **A term by which names are dropped** from now on. -/
def filterName (x : Extractor) (term : String) : Extractor :=
  { x with filters := x.filters ++ [term] }

/-- Whether a name is dropped. -/
def isFiltered (x : Extractor) (name : String) : Bool := x.filters.any (Text.contains name)

end Extractor

/-! ## What the files give -/

/-- **What a search can run into**: how files are read, and what is wrong with the parsers.
`elapsed` is the text of a measured time. -/
structure Workshop where
  read : String → Except SystemFault Bytes
  /-- The reason why a language's grammar cannot be attached to a parser. -/
  broken : Language → Option String := fun _ => none
  /-- Whether the parser gives up on the files of a language. -/
  treeless : Language → Bool := fun _ => false
  elapsed : String

/-- The part of the program that extractors report as. -/
def parsersLog : String := logName "parsers"

/-- **What one file gave**: the elements in it, or what to say about it. -/
structure Surveyed where
  elements : List Element
  records : List Record
  deriving DecidableEq, Repr

namespace Surveyed

/-- A file that gave nothing but a warning. -/
def warning (message : String) : Surveyed := ⟨[], [⟨Level.warning, parsersLog, message⟩]⟩

/-- The element for an occurrence in a file. -/
def element (file : String) (o : Source.Occurrence) : Element :=
  ⟨String.ofList o.text, file, o.line, o.group⟩

/-- What is said about a file that cannot be read. -/
def unreadable (path reason : String) : Surveyed :=
  warning ("error while reading " ++ path ++ ": " ++ reason)

/-- **The elements of a file.** -/
def ofFile (w : Workshop) (f : SourceFile) : Surveyed :=
  match w.read f.path with
  | .error fault => unreadable f.path fault.message
  | .ok bytes =>
      match Utf8.decode bytes with
      | .error m => unreadable f.path m.message
      | .ok source =>
          if w.treeless f.language then warning ("error while parsing " ++ f.path)
          else ⟨(f.language.occurrences source).map (element f.path), []⟩

end Surveyed

/-! ## Extraction -/

/-- **What an extraction gives**: the functions, what was said, and the progress messages. -/
structure Extraction where
  elements : List Element
  records : List Record
  updates : List Progress.Update
  deriving DecidableEq, Repr

namespace Extractor

/-- All that the queued files give. -/
def survey (x : Extractor) (w : Workshop) : List Surveyed := x.files.map (Surveyed.ofFile w)

/-- The elements as a language shows them: methods of Go carry their receivers. -/
def shown (l : Language) (es : List Element) : List Element :=
  match l with
  | .go => Receiver.join es
  | _ => es

/-- How many elements are folded into others on the way. -/
def folded (l : Language) (es : List Element) : Nat :=
  match l with
  | .go => Receiver.redacted es
  | _ => 0

/-- The elements that are left of those that were found. -/
def kept (x : Extractor) (found : List Element) : List Element :=
  (shown x.language found).filter fun e => !x.isFiltered e.name

/-- How many of the elements that were found are not left. -/
def lost (x : Extractor) (found : List Element) : Nat :=
  folded x.language found + ((shown x.language found).length - (x.kept found).length)

/-- The progress messages for what was found. -/
def updates (x : Extractor) (found : List Element) : List Progress.Update :=
  List.replicate found.length (.total 1)
    ++ (if x.lost found = 0 then [] else [.total (-(x.lost found : Int))])

/-- What is said about how long the search took. -/
def timing (x : Extractor) (w : Workshop) : Record :=
  ⟨Level.debug, parsersLog,
    "Finding " ++ x.language.label ++ " functions took " ++ w.elapsed ++ "s"⟩

/-- **The functions in the queued files**, file by file and in the order of each file. -/
def extract (x : Extractor) (w : Workshop) : Except ExtractError Extraction :=
  if x.files = [] then .error .noFiles
  else match w.broken x.language with
    | some reason => .error (.grammar x.language reason)
    | none =>
        let surveyed := x.survey w
        let found := surveyed.flatMap Surveyed.elements
        .ok ⟨x.kept found, surveyed.flatMap Surveyed.records ++ [x.timing w], x.updates found⟩

end Extractor

end FunctionChurn
