import FunctionChurn.Text.Quoted

/-!
# What the operating system refuses

A failed call to the operating system carries a number, a reason in words, and often the path it was
about.  All three go into messages, so they are kept apart until the end.

* `SystemFault` is such a failure; `SystemFault.message` its sentence.
* `SystemFault.missing` and the others are the failures that the file tree itself can give.
* `Refusal` is a failure that it cannot give: a missing permission, a name that is too long, and
  whatever else the system has against a call.
-/

namespace FunctionChurn

/-- **A failed system call**: its number if it has one, the reason, and the path it was about. -/
structure SystemFault where
  code : Option Int
  reason : String
  file : Option String := none
  deriving DecidableEq, Repr

namespace SystemFault

/-- **The sentence for a failed call.**  The path stands in quotes behind the reason. -/
def message (f : SystemFault) : String :=
  let place := match f.file with
    | some path => ": " ++ Text.quote path
    | none => ""
  match f.code with
  | some n => "[Errno " ++ toString n ++ "] " ++ f.reason ++ place
  | none => f.reason

/-! ## The failures of a file tree -/

/-- Nothing is there. -/
def missing (path : String) : SystemFault := ⟨some 2, "No such file or directory", some path⟩

/-- A file stands where a directory is needed. -/
def notDirectory (path : String) : SystemFault := ⟨some 20, "Not a directory", some path⟩

/-- A directory stands where a file is needed. -/
def isDirectory (path : String) : SystemFault := ⟨some 21, "Is a directory", some path⟩

/-- The links go round in a circle, or are too many. -/
def tooManyLinks (path : String) : SystemFault :=
  ⟨some 40, "Too many levels of symbolic links", some path⟩

/-- The file may not be used in this way. -/
def denied (path : String) : SystemFault := ⟨some 13, "Permission denied", some path⟩

/-- A path holds the null character, so that the call is not even made. -/
def nullByte : SystemFault := ⟨none, "embedded null byte", none⟩

end SystemFault

/-! ## Refusals -/

/-- The numbers of the failures that mean no more than that nothing is there: it is missing, no open
file, not in a directory, or at the end of no chain of links. -/
def absenceCodes : List Int := [2, 9, 20, 40]

/-- **What the system has against a call**, whether or not anything is there. -/
structure Refusal where
  code : Int
  reason : String
  other : code ∉ absenceCodes := by decide
  deriving DecidableEq

namespace Refusal

/-- The failure of a call about `path` that is refused. -/
def fault (r : Refusal) (path : String) : SystemFault := ⟨some r.code, r.reason, some path⟩

/-- A name or a path has too many bytes. -/
def nameTooLong : Refusal where
  code := 36
  reason := "File name too long"

/-- A permission is missing. -/
def denied : Refusal where
  code := 13
  reason := "Permission denied"

end Refusal

end FunctionChurn
