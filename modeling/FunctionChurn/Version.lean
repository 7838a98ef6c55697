import FunctionChurn.Arguments.Usage
import FunctionChurn.Text.Blank

/-!
# The version line

The version line names the installed version and the commit of the checkout that the program runs
from. Either may be unknown.

* `HeadAnswer` is what asking for the commit came to.
* `VersionSource` is what the line is made from, `VersionSource.line` the line.
-/

namespace FunctionChurn

/-- The version that is given when the program was not installed. -/
def packageVersion : String := "0.1.0"

/-- The commit that is given when there is none to give. -/
def unknownCommit : String := "unknown"

/-- **What asking for the commit of the checkout came to.** -/
inductive HeadAnswer where
  /-- The program to ask cannot be launched. -/
  | unlaunched
  | answered (status : Int) (output : String)
  deriving DecidableEq, Repr

/-- The commit in an answer. -/
def HeadAnswer.commit : HeadAnswer → String
  | .unlaunched => unknownCommit
  | .answered status output =>
      let hash := Text.trim output
      if status ≠ 0 ∨ hash = "" then unknownCommit else hash

/-- **What a version line is made from**: the installed version, if there is one, and the answer
about the commit. -/
structure VersionSource where
  installed : Option String := none
  head : HeadAnswer := .unlaunched
  deriving DecidableEq, Repr

namespace VersionSource

/-- The version. -/
def tag (v : VersionSource) : String := v.installed.getD packageVersion

/-- **The version line.** -/
def line (v : VersionSource) : String :=
  programName ++ " version: " ++ v.tag ++ ", git commit: " ++ v.head.commit

end VersionSource

end FunctionChurn
