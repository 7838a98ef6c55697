import FunctionChurn.Disk.Resolve
import FunctionChurn.Journal

/-!
# The log file

A log file is opened once, for the whole run, and only ever grows.

* `Journal.open` is the journal for a number of `-V`, its log file made if need be.
* `Journal.write` puts a record at the end of the file, `Journal.writeAll` several.
-/

namespace FunctionChurn.Journal

/-- The absolute path of a log file. -/
def filePath (d : Disk) (file : String) : String := Path.absolute (Path.stepsFrom d.cwd file)

/-- **A journal opened**, and the tree with its log file. -/
def «open» (d : Disk) (count : Int) (file : Option String) : Except SystemFault (Journal × Disk) :=
  match file.map (filePath d) with
  | none => .ok (configure count none, d)
  | some path => (d.prepare path).map fun d' => (configure count (some path), d')

/-- **A record at the end of the log file**, if there is one and the record is shown. -/
def write (j : Journal) (time : String) (d : Disk) (r : Record) : Disk :=
  match j.file with
  | none => d
  | some path => d.append path (Utf8.encode (j.fileText time r).toList)

/-- Several records at the end of the log file. -/
def writeAll (j : Journal) (time : String) (d : Disk) (rs : List Record) : Disk :=
  rs.foldl (j.write time) d

end FunctionChurn.Journal
