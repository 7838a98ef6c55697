import FunctionChurn.Command
import FunctionChurn.Journal.Stamp
import FunctionChurn.Shell.Run

/-!
# The command line

The file tree that a run depends on is read first: what is below the working directory, and what the
arguments name elsewhere.  Then the command runs on it, and what it leaves is printed and written.

Contents are read of source files, of settings files, and of whatever is small enough to be a
script; other files are there without their content.  A script counts as executable if it begins
like one.  Durations are not measured.
-/

namespace FunctionChurn

/-- The greatest size of a file that may be a script. -/
def scriptLimit : Nat := 65536

/-- Whether the content of a file of a size can matter. -/
def isWanted (path : String) (size : Nat) : Bool :=
  (Language.ofPath? path).isSome || Path.baseName path == settingsName || size ≤ scriptLimit

/-- Whether a file begins like a script. -/
def beginsScript (content : Bytes) : Bool := [35, 33].isPrefixOf content

/-- The real path of a path. -/
def realPath (path : String) : IO String := return (← IO.FS.realPath path).toString

/-- The file at a path. -/
def loadFile (path : String) : IO Node := do
  let size := (← (← IO.FS.realPath path).metadata).byteSize.toNat
  if isWanted path size then
    let content := (← IO.FS.readBinFile path).toList
    return .file content (beginsScript content)
  else return .file [] false

/-- Whether a path leads to a directory. -/
def leadsToDirectory (path : String) : IO Bool := do (← IO.FS.realPath path).isDir

/-- **The node at a real path**, with all that is below it.  Links to directories are kept as
links; entries that cannot be read are left out. -/
partial def loadNode (path : String) : IO Node := do
  if ← leadsToDirectory path then
    let mut entries := Entries.none
    for found in ← (← IO.FS.realPath path).readDir do
      let child := Path.join path found.fileName
      try
        let real ← realPath child
        let node ← if real != child && (← leadsToDirectory real) then pure (Node.link real)
          else loadNode child
        entries := .entry (.text found.fileName) node entries
      catch _ => continue
    return .directory true entries
  else loadFile path

/-- A tree with what is at a path in it as well. -/
def loadInto (d : Disk) (path : String) : IO Disk := do
  let steps := Path.stepsFrom d.cwd path
  if (d.top.at? steps).isSome then return d
  try
    let node ← loadNode (← realPath (Path.absolute steps))
    return { d with top := d.top.put node steps }
  catch _ => return d

/-- The home directories of the users that the system lists. -/
def loadHomes : IO (String → Option String) := do
  try
    let lines ← IO.FS.lines "/etc/passwd"
    let homes := lines.toList.filterMap fun line => match Text.pieces ':' line with
      | name :: _ :: _ :: _ :: _ :: home :: _ => some (name, home)
      | _ => none
    return fun name => homes.lookup name
  catch _ => return fun _ => none

/-- **The file tree for some arguments.** -/
def loadDisk (a : Arguments) : IO Disk := do
  let here ← realPath "."
  let home := (← IO.getEnv "HOME").getD "/"
  let cwd := Path.names here
  let homeOf ← loadHomes
  let d : Disk := { top := Node.emptyDirectory.put (← loadNode here) cwd, cwd, home, homeOf }
  let named := a.chosenRoot :: (a.config.toList ++ a.logFile.toList)
  named.foldlM loadInto (← (named.filterMap d.expandHome).foldlM loadInto d)

/-- The time at which a file was written last. -/
def lastWritten (path : String) : IO Nat := do
  let time := (← (← IO.FS.realPath path).metadata).modified
  return time.sec.toNat * 1000 + time.nsec.toNat / 1000000

/-- The log file of a run written, with all that the run put into it. -/
def writeLog (d : Disk) (file : String) : IO Unit := do
  match d.read (Journal.filePath d file) with
  | .ok content => IO.FS.writeBinFile file (ByteArray.mk content.toArray)
  | .error _ => return

/-- The time for the lines of a log file: that at which it was opened. -/
def openingTime (a : Arguments) : IO String := do
  match a.logFile with
  | none => return timeStamp 0
  | some file =>
      try
        IO.FS.withFile file .append fun _ => return
        return timeStamp (← lastWritten file)
      catch _ => return timeStamp 0

/-- What is said about a settings file that is no YAML. -/
def explain (_ : List Char) : String := "it is no YAML"

/-- What a run leaves printed and written, and the status of the process. -/
def conclude (a : Arguments) (o : Outcome) : IO UInt32 := do
  IO.print o.output
  IO.eprint o.errors
  if let some file := a.logFile then writeLog o.disk file
  match o.ending with
  | .success => return 0
  | .exit status => return status.toNat.toUInt32
  | .escape e =>
      IO.eprintln (e.message explain)
      return 1

/-- What a run depends on, in a file tree. -/
def machine (d : Disk) (time : String) : Machine :=
  { disk := d, git := Disk.launch, explain, time, elapsed := "0.000" }

/-- A file tree with nothing in it. -/
def emptyDisk : Disk := { top := .emptyDirectory, cwd := [], home := "/" }

/-- **The whole program.**  Arguments that cannot be read need no file tree. -/
def runProgram (words : List String) : IO UInt32 := do
  match Arguments.read words with
  | .error _ => conclude {} ((machine emptyDisk (timeStamp 0)).run words)
  | .ok a =>
      let time ← openingTime a
      let d ← loadDisk a
      conclude a ((machine d time).run words)

end FunctionChurn

/-- The program. -/
def main (words : List String) : IO UInt32 := FunctionChurn.runProgram words
