import FunctionChurn.Discovery
import FunctionChurn.Extractor
import FunctionChurn.Grammar.Registry
import FunctionChurn.Report.Row
import FunctionChurn.Report.Trace
import FunctionChurn.Workers

/-!
# Making a report

A report is made in four steps: files are discovered, each is handed to the extractor of its
language, the extractors find the functions, and the history of every function is looked up.

* `Options` are the choices of whoever asks for a report.
* `Surroundings` is all that a run depends on besides them: the file tree, the git program, and
  faults.
* `Reporter.open` prepares a report; `Reporter.collect` gives one row for each function, unsorted;
  `Reporter.run` gives the rows that are shown.
* `Surroundings.collected` and `Surroundings.report` do the same from the start.
* `ReportError` is why there may be no report.

A reporter can be used again.  Its files, prefixes and terms are then added a second time, so every
function is reported once more for each time it was queued.

Of a batch of look-ups each item is carried out, even when one of them failed: the trace of a
batch is that of all its items, and its failure that of the first one that failed.
-/

namespace FunctionChurn

/-! ## Choices and surroundings -/

/-- **The choices for a report.** -/
structure Options where
  root : String := "."
  total : Int := 50
  skip : Int := 0
  prefixes : List String := []
  invertMatch : List String := []
  excludeFunc : List String := []
  verbosity : Int := 0
  git : String := "git"
  deriving DecidableEq, Repr

/-- **What a run depends on.** -/
structure Surroundings where
  /-- The paths of the files below a root. -/
  listing : String → List String
  /-- How many directories are listed in each batch of the search below a root. -/
  levels : String → List Nat := fun _ => [1]
  /-- The working directory. -/
  cwd : List String
  workshop : Workshop
  supplies : Supplies
  git : Git
  /-- The languages whose extractors refuse every file. -/
  refused : Language → Bool := fun _ => false

/-- **Why there is no report.** -/
inductive ReportError where
  | history (e : HistoryError)
  | grammar (e : GrammarError)
  /-- Nothing is left to inspect. -/
  | noFiles
  deriving DecidableEq, Repr

/-- The sentence for a report error. -/
def ReportError.message : ReportError → String
  | .history e => e.message
  | .grammar e => e.message
  | .noFiles => "No files found in the current directory"

/-- The part of the program that reports are made by. -/
def reportLog : String := logName "pipeline"

/-- The part of the program that files are discovered by. -/
def discoveryLog : String := logName "discovery"

/-- **A prepared report**: whom to ask, the extractors with their files, and what the search for
files is narrowed to. -/
structure Reporter where
  options : Options
  extractors : List Extractor
  filter : Filter := {}
  deriving DecidableEq, Repr

namespace Reporter

/-- Whom to ask for histories. -/
def inspector (o : Options) : Inspector := ⟨o.root, o.git⟩

/-! ## Preparing -/

/-- Extractors for several languages, whose grammars and queries are loaded in that order. -/
def equip (s : Supplies) : Registry → List Language → Except GrammarError (List Extractor)
  | _, [] => .ok []
  | r, l :: ls =>
      match r.equip s l with
      | (.error e, _) => .error e
      | (.ok _, r') => (equip s r' ls).map ({ language := l } :: ·)

/-- **A report prepared for some languages.**  The work tree is asked for first. -/
def «open» (s : Surroundings) (o : Options) (ls : List Language) :
    Trace × Except ReportError Reporter :=
  let asked : Trace := { calls := [(inspector o).probeCall] }
  match (inspector o).probe s.git with
  | .error e => (asked, .error (.history e))
  | .ok () =>
      match equip s.supplies {} ls with
      | .error e => (asked, .error (.grammar e))
      | .ok xs => (asked, .ok { options := o, extractors := xs })

/-! ## Discovery and dispatch -/

/-- The search for files narrowed by the choices.  Prefixes are taken from the root. -/
def narrowed (o : Options) (f : Filter) : Filter where
  prefixes := f.prefixes ++ o.prefixes.map (Path.join o.root)
  excluded := f.excluded ++ o.invertMatch

/-- What a search below a root leaves that found so many files. -/
def discoveryTrace (s : Surroundings) (root : String) (count : Nat) : Trace :=
  { Trace.record Level.debug discoveryLog
      ("Discovery took " ++ s.workshop.elapsed ++ "s (" ++ toString count ++ " files)") with
    batches := s.levels root }

/-- Whether some extractor is for a language. -/
def covers (xs : List Extractor) (l : Language) : Bool := xs.any fun x => x.language == l

/-- A file queued by the extractor of its language; of several the last one gets it. -/
def queue (f : SourceFile) : List Extractor → List Extractor
  | [] => []
  | x :: xs =>
      if covers xs f.language then x :: queue f xs
      else match x.add f with
        | .ok x' => x' :: xs
        | .error _ => x :: xs

/-- **A file handed to its extractor**, with what is said about it. -/
def dispatch (s : Surroundings) (verbosity : Int) (xs : List Extractor) (f : SourceFile) :
    Trace × List Extractor :=
  if f.language = .unsupported ∨ ¬ covers xs f.language then
    (if 0 < verbosity then .record Level.warning reportLog ("Unsupported file: " ++ f.path) else {},
      xs)
  else if s.refused f.language then
    (.record Level.warning reportLog
      ("Failed to load file " ++ f.path ++ ": " ++ (ExtractError.notCompatible f.path).message), xs)
  else
    (if 1 < verbosity then .record Level.info reportLog ("Added " ++ f.path) else {}, queue f xs)

/-- Files handed to their extractors, one after the other. -/
def dispatchAll (s : Surroundings) (verbosity : Int) :
    List Extractor → List SourceFile → Trace × List Extractor
  | xs, [] => ({}, xs)
  | xs, f :: fs =>
      let (t, xs') := dispatch s verbosity xs f
      let (u, ys) := dispatchAll s verbosity xs' fs
      (t ++ u, ys)

/-- Extractors with more terms to drop names by. -/
def filterNames (terms : List String) (xs : List Extractor) : List Extractor :=
  xs.map fun x => terms.foldl Extractor.filterName x

/-! ## Histories -/

/-- What is said when the history of a function is no text. -/
def undecodable (e : Element) (reason : HistoryError) : Trace :=
  .record Level.warning reportLog
    ("Can't read history of " ++ e.name ++ " in " ++ e.file ++ ": " ++ reason.message)

/-- The row of an element, with how often it changed. -/
def row (e : Element) (freq : Nat) : Row := ⟨e.file, e.line, e.name, freq⟩

/-- **The look-up for one function.**  An answer that is no text counts as no change. -/
def score (s : Surroundings) (o : Options) (e : Element) : Trace × Except HistoryError Row :=
  let path := Path.relative s.cwd e.file o.root
  let asked : Trace := { calls := [(inspector o).lookupCall path e.name] }
  let scored : Trace := { updates := [.done 1] }
  match (inspector o).lookup s.git path e.name with
  | .ok found => (asked ++ scored, .ok (row e found.length))
  | .error (.notText range) => (asked ++ undecodable e (.notText range) ++ scored, .ok (row e 0))
  | .error reason => (asked, .error reason)

/-- **The look-ups of a batch.** -/
def scoreAll (s : Surroundings) (o : Options) (es : List Element) :
    Trace × Except HistoryError (List Row) :=
  let scores := es.map (score s o)
  (.join (scores.map Prod.fst), FunctionChurn.collect (scores.map Prod.snd))

/-- **The rows of one extractor.** -/
def rowsOf (s : Surroundings) (o : Options) (x : Extractor) :
    Trace × Except HistoryError (List Row) :=
  match x.extract s.workshop with
  | .error .noFiles =>
      (.record Level.debug reportLog ("Parser " ++ x.language.label ++ " didn't find any files"),
        .ok [])
  | .error reason =>
      (.record Level.warning reportLog
        ("Parser " ++ x.language.label ++ " encountered an error: " ++ reason.message), .ok [])
  | .ok got =>
      let before : Trace :=
        { records := got.records, updates := got.updates, batches := [got.elements.length] }
      match scoreAll s o got.elements with
      | (t, .error e) => (before ++ t, .error e)
      | (t, .ok rows) =>
          (before ++ t ++ .record Level.debug reportLog
            ("Function history examination took " ++ s.workshop.elapsed ++ "s"), .ok rows)

/-- The rows of several extractors, one after the other. -/
def rowsOfAll (s : Surroundings) (o : Options) :
    List Extractor → Trace × Except HistoryError (List Row)
  | [] => ({}, .ok [])
  | x :: xs =>
      match rowsOf s o x with
      | (t, .error e) => (t, .error e)
      | (t, .ok rows) =>
          let (u, rest) := rowsOfAll s o xs
          (t ++ u, rest.map (rows ++ ·))

/-! ## The report -/

/-- **One row for each function of some files**, and the reporter with the files queued. -/
def collectFrom (s : Surroundings) (r : Reporter) (files : List SourceFile) :
    Trace × Reporter × Except ReportError (List Row) :=
  let (t, xs) := dispatchAll s r.options.verbosity r.extractors files
  let xs := filterNames r.options.excludeFunc xs
  let (u, rows) := rowsOfAll s r.options xs
  (t ++ u, { r with extractors := xs },
    match rows with
    | .ok rows => .ok rows
    | .error e => .error (.history e))

/-- **One row for each function below the root**, extractor by extractor, and the reporter as it is
then. -/
def collect (s : Surroundings) (r : Reporter) : Trace × Reporter × Except ReportError (List Row) :=
  let r := { r with filter := narrowed r.options r.filter }
  let files := discover r.filter (s.listing r.options.root)
  let t := discoveryTrace s r.options.root files.length
  if files = [] then (t, r, .error .noFiles)
  else
    let found : Trace :=
      .record Level.debug reportLog ("Discovered " ++ toString files.length ++ " files")
    let (u, r, rows) := collectFrom s r files
    (t ++ found ++ u, r, rows)

/-- The rows that are shown of those that were collected. -/
def shown (o : Options) (rows : List Row) : List Row := window o.skip o.total (ranked rows)

/-- **The rows that are shown.** -/
def run (s : Surroundings) (r : Reporter) : Trace × Reporter × Except ReportError (List Row) :=
  let (t, r', rows) := collect s r
  (t, r', rows.map (shown r.options))

end Reporter

/-! ## From the start -/

/-- **All rows of a report made from the start**, for the languages that can be searched. -/
def Surroundings.collected (s : Surroundings) (o : Options) :
    Trace × Except ReportError (List Row) :=
  match Reporter.open s o Language.searched with
  | (t, .error e) => (t, .error e)
  | (t, .ok r) =>
      let (u, _, rows) := r.collect s
      (t ++ u, rows)

/-- **The rows that a report made from the start shows.** -/
def Surroundings.report (s : Surroundings) (o : Options) : Trace × Except ReportError (List Row) :=
  match Reporter.open s o Language.searched with
  | (t, .error e) => (t, .error e)
  | (t, .ok r) =>
      let (u, _, rows) := r.run s
      (t ++ u, rows)

end FunctionChurn
