import FunctionChurn.Arguments.Reading
import FunctionChurn.Journal.File
import FunctionChurn.Report.Run
import FunctionChurn.Report.Table
import FunctionChurn.Settings.File
import FunctionChurn.Version

/-!
# The command

The command reads its arguments, checks the root, loads the settings, makes a report and prints it
as a table.  Whatever stops it on the way is told in a sentence on the error stream.

* `Machine` is what a run of the command depends on besides its arguments.
* `Outcome` is what a run leaves: how it ended, the two streams, the calls, and the file tree.
* `Machine.run` is the whole command, `Machine.report` the report that it makes.
* `Escape` is what ends the command without a sentence.

The log file is opened before anything is looked at, and it is there when files are discovered.  The
root is checked, and its settings are looked for, with a leading tilde replaced; the report is made
for the root as it was given.  A command that runs to its end succeeds; everything else that stops it in
order, the explanation that was asked for among it, leaves through the reading of the arguments, with a
status.
-/

namespace FunctionChurn

/-! ## What a run depends on and what it leaves -/

/-- **What a run of the command depends on.**  `time` is the time that log lines carry, `elapsed`
the text of a measured time. -/
structure Machine where
  disk : Disk
  /-- The programs, as they answer in a file tree. -/
  git : Disk → Git
  version : VersionSource := {}
  supplies : Supplies := .packaged
  /-- The reason why a language's grammar cannot be attached to a parser. -/
  broken : Language → Option String := fun _ => none
  /-- Whether the parser gives up on the files of a language. -/
  treeless : Language → Bool := fun _ => false
  /-- What is said about a settings file that is no YAML. -/
  explain : List Char → String
  time : String
  elapsed : String

/-- **What ends the command without a sentence.** -/
inductive Escape where
  /-- The log file cannot be opened. -/
  | logFile (f : SystemFault)
  /-- The system refuses to look at the root. -/
  | root (f : SystemFault)
  | settings (f : SettingsFailure)
  /-- There is no pool to list directories and ask for histories. -/
  | pool (e : PoolError)
  deriving DecidableEq

/-- The message of an escape. -/
def Escape.message (explain : List Char → String) : Escape → String
  | .logFile f => f.message
  | .root f => f.message
  | .settings f => f.message explain
  | .pool e => e.message

/-- **How a run ends.** -/
inductive Ending where
  | success
  | exit (status : Int)
  | escape (e : Escape)
  deriving DecidableEq

/-- **What a run leaves.** -/
structure Outcome where
  ending : Ending
  output : String := ""
  errors : String := ""
  calls : List Call := []
  /-- The progress messages. -/
  updates : List Progress.Update := []
  workers : Workers := {}
  disk : Disk

namespace Arguments

/-- The root that is asked for: the option, else the argument, else the working directory.  An
empty text does not count. -/
def chosenRoot (a : Arguments) : String :=
  ((a.rootOption.filter (· ≠ "")).orElse fun _ => a.root.filter (· ≠ "")).getD "."

/-- What the command line lays on top of the settings. -/
def overrides (a : Arguments) : Overrides :=
  ⟨a.total, a.skip, a.prefixes, a.invertMatch, a.excludeFunc⟩

/-- The choices for a report, given the settings with the overrides on top. -/
def options (a : Arguments) (s : Settings) : Options where
  root := a.chosenRoot
  total := s.total
  skip := s.skip
  prefixes := s.prefixes
  invertMatch := s.invertMatch
  excludeFunc := s.excludeFunc
  verbosity := a.logLevel
  git := s.git

end Arguments

namespace Machine

/-- What a report depends on, in a file tree. -/
def surroundings (m : Machine) (d : Disk) : Surroundings where
  listing := d.filesBelow
  levels := d.levelsBelow
  cwd := d.cwd
  workshop := ⟨d.read, m.broken, m.treeless, m.elapsed⟩
  supplies := m.supplies
  git := m.git d

/-- **The report for some choices**: the rows that are shown. -/
def report (m : Machine) (d : Disk) (o : Options) : Trace × Except ReportError (List Row) :=
  (m.surroundings d).report o

/-! ## The command step by step -/

/-- An end with a sentence on the error stream. -/
def refuse (d : Disk) (sentence : String) : Outcome :=
  { ending := .exit 1, errors := sentence ++ "\n", disk := d }

/-- The sentence for a report that cannot be made. -/
def failure (e : ReportError) : String :=
  programName ++ " failed: " ++ e.message ++ "\nRun with -VVVV for more details."

/-- **The report made and printed.**  The pool is configured for it; whatever comes of the report,
the progress messages are closed and the pool is shut down. -/
def print (m : Machine) (d : Disk) (j : Journal) (o : Options) (workers : Option Int) : Outcome :=
  let ready := Workers.configure {} workers
  let (t, rows) := m.report d o
  match ready.work t.batches with
  | .error e =>
      { ending := .escape (.pool e), calls := [(Reporter.inspector o).probeCall],
        updates := [.close], workers := ready.shutdown, disk := d }
  | .ok worked =>
      let left : Outcome := {
        ending := .success
        errors := j.streamTexts t.records
        calls := t.calls
        updates := t.updates ++ [.close]
        workers := worked.shutdown
        disk := j.writeAll m.time d t.records }
      match rows with
      | .ok rows => { left with output := renderReport .simple rows ++ "\n" }
      | .error e => { left with ending := .exit 1, errors := left.errors ++ failure e ++ "\n" }

/-- The settings loaded, for a root that is a directory, and the report made with them. -/
def runAt (m : Machine) (d : Disk) (j : Journal) (a : Arguments) (path : String) : Outcome :=
  match Settings.load d (a.config.getD path) with
  | .error (.file e) => refuse d (e.message m.explain)
  | .error f => { ending := .escape (.settings f), disk := d }
  | .ok s =>
      let s := s.merge a.overrides
      m.print d j (a.options s) s.workers

/-- The root checked, and the command run on it. -/
def runOn (m : Machine) (d : Disk) (j : Journal) (a : Arguments) : Outcome :=
  match d.expandHome a.chosenRoot with
  | none => { ending := .escape (.settings (Settings.homeFailure a.chosenRoot)), disk := d }
  | some path =>
      match d.exists path with
      | .error f => { ending := .escape (.root f), disk := d }
      | .ok false => refuse d ("Repository path not found: " ++ a.chosenRoot)
      | .ok true =>
          match d.isDirectory path with
          | .error f => { ending := .escape (.root f), disk := d }
          | .ok false => refuse d ("Repository path is not a directory: " ++ a.chosenRoot)
          | .ok true => m.runAt d j a path

/-- The command for arguments that were read. -/
def runWith (m : Machine) (a : Arguments) : Outcome :=
  match Journal.open m.disk a.logLevel a.logFile with
  | .error f => { ending := .escape (.logFile f), disk := m.disk }
  | .ok (j, d) => m.runOn d j a

/-- **The command.**  The word `version` in front asks for the version line instead. -/
def run (m : Machine) (words : List String) : Outcome :=
  if words.head? = some "version" then
    { ending := .success, output := m.version.line ++ "\n", disk := m.disk }
  else
    match Arguments.read words with
    | .error e =>
        { ending := .exit e.status, output := e.output, errors := e.errors, disk := m.disk }
    | .ok a => m.runWith a

end Machine

end FunctionChurn
