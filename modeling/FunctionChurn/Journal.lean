/-!
# Log records

Whatever happens on the way to a report is told as a record with a level.  The number of `-V` on the
command line decides which records are shown; those go to the error stream, and to a file as well if
one was named.

* `Level` is how important a record is, and `Level.ofCount` the threshold for a number of `-V`.
* `Record` is one record, with the part of the program that it comes from.
* `Journal` says what is shown, `Record.streamLine` and `Record.fileLine` how.
-/

namespace FunctionChurn

/-- **How important a record is**; higher is more important. -/
abbrev Level := Int

namespace Level

def debug : Level := 10
def info : Level := 20
def warning : Level := 30
def error : Level := 40
def critical : Level := 50

/-- The threshold that shows nothing. -/
def off : Level := critical + 10

/-- The name of a level; the levels between the named ones are given by number. -/
def name (l : Level) : String :=
  if l = 0 then "NOTSET"
  else if l = debug then "DEBUG"
  else if l = info then "INFO"
  else if l = warning then "WARNING"
  else if l = error then "ERROR"
  else if l = critical then "CRITICAL"
  else "Level " ++ toString l

/-- **The threshold for a number of `-V`.**  Four or more show everything. -/
def ofCount (count : Int) : Level :=
  if count ≤ 0 then off
  else if count = 1 then error
  else if count = 2 then warning
  else if count = 3 then info
  else debug

end Level

/-! ## Records -/

/-- The name that all parts of the program put in front of their own. -/
def programLog : String := "hotspots"

/-- The full name of a part of the program; the empty part is the program itself. -/
def logName (part : String) : String :=
  if part = "" then programLog else programLog ++ "." ++ part

/-- **One record.** -/
structure Record where
  level : Level
  source : String
  message : String
  deriving DecidableEq, Repr

namespace Record

/-- A record as it goes to the error stream. -/
def streamLine (r : Record) : String :=
  "[" ++ programLog ++ "] " ++ r.level.name ++ " " ++ r.message ++ "\n"

/-- A record as it goes to a log file, with the time it was made. -/
def fileLine (time : String) (r : Record) : String :=
  time ++ " " ++ r.level.name ++ " " ++ r.source ++ ": " ++ r.message ++ "\n"

end Record

/-! ## What is shown -/

/-- **What is shown, and where.**  Before anything was configured, the messages of warnings and more
important records are shown bare. -/
structure Journal where
  threshold : Level := Level.warning
  file : Option String := none
  configured : Bool := false
  deriving DecidableEq, Repr

namespace Journal

/-- The journal for a number of `-V` and a log file. -/
def configure (count : Int) (file : Option String) : Journal := ⟨Level.ofCount count, file, true⟩

/-- **Whether records of a level are shown.** -/
def shows (j : Journal) (level : Level) : Bool := j.threshold ≤ level

/-- What a record adds to the error stream. -/
def streamText (j : Journal) (r : Record) : String :=
  if j.shows r.level then if j.configured then r.streamLine else r.message ++ "\n" else ""

/-- What a record adds to the log file, if there is one. -/
def fileText (j : Journal) (time : String) (r : Record) : String :=
  if j.shows r.level then r.fileLine time else ""

/-- What several records add to the error stream. -/
def streamTexts (j : Journal) (rs : List Record) : String := String.join (rs.map j.streamText)

end Journal

end FunctionChurn
