import FunctionChurn.Text.Utf8
import FunctionChurn.Text.Search
import FunctionChurn.Disk.Fault
import FunctionChurn.Path

/-!
# The history of a function

How often a function changed is asked of `git log -L`, which follows a function through the commits.
What it prints is read for commit headers only.

* `commits` lists the commits in what `git log` printed.
* `Git` is a way to run the program: a call is answered with a status and bytes, or cannot be
  launched.
* `Inspector.probe` makes sure that a directory belongs to a work tree, `Inspector.lookup` asks
  for one function.

A failing `git log` with nothing printed cannot be told from a function that was never touched, so
the status of a look-up is not read.
-/

namespace FunctionChurn

/-! ## Commit headers -/

/-- The length of a commit's full hash. -/
def hashLength : Nat := 40

/-- Whether a character can stand in a hash. -/
def isHashChar (c : Char) : Bool := ('0' ≤ c && c ≤ '9') || ('a' ≤ c && c ≤ 'f')

/-- What a commit header begins with. -/
def headerStart : List Char := ['c', 'o', 'm', 'm', 'i', 't', ' ']

/-- **The hash of a commit header**, if a text begins with one.  What stands behind the hash does not
matter. -/
def headerHash? (text : List Char) : Option String :=
  let hash := (text.drop headerStart.length).take hashLength
  if headerStart.isPrefixOf text && hash.length == hashLength && hash.all isHashChar then
    some (String.ofList hash)
  else none

/-- Whether a line begins behind a character, or where there is none.  Only a line feed ends a
line. -/
def beginsLine : Option Char → Bool
  | none => true
  | some c => c == '\n'

/-- **The commit headers of a text**, looked for from left to right, with the character in front of the
text and how many characters of it belong to the header that was found last.  A header can stand only
where a line begins, and the search goes on right behind its hash. -/
def commitsFrom : Option Char → Nat → List Char → List String
  | _, _, [] => []
  | _, taken + 1, c :: rest => commitsFrom (some c) taken rest
  | before, 0, c :: rest =>
      match if beginsLine before then headerHash? (c :: rest) else none with
      | some hash => hash :: commitsFrom (some c) (headerStart.length + hashLength - 1) rest
      | none => commitsFrom (some c) 0 rest

/-- **The commits in what `git log` printed**, in its order. -/
def commits (text : List Char) : List String := commitsFrom none 0 text

/-! ## Running the program -/

/-- **A call**: the program with its arguments, and the directory it is run in. -/
structure Call where
  arguments : List String
  directory : String
  deriving DecidableEq, Repr

/-- What a program that ran leaves behind. -/
structure CallResult where
  status : Int
  output : Bytes
  deriving DecidableEq, Repr

/-- **A way to run programs.** -/
abbrev Git := Call → Except SystemFault CallResult

/-- Why a history cannot be had. -/
inductive HistoryError where
  /-- The program cannot be launched. -/
  | launch (program : String) (fault : SystemFault)
  /-- The directory belongs to no work tree. -/
  | notWorkTree (path : String)
  /-- The answer for a range of lines is no text. -/
  | notText (range : String)
  deriving DecidableEq, Repr

/-- The sentence for a history error. -/
def HistoryError.message : HistoryError → String
  | .launch program fault => "Failed to run " ++ program ++ ": " ++ fault.message
  | .notWorkTree path => "Not a git directory: " ++ path
  | .notText range => "git log output for " ++ range ++ " is not valid UTF-8"

/-- **Whom to ask, and about which directory.** -/
structure Inspector where
  path : String
  program : String
  deriving DecidableEq, Repr

namespace Inspector

/-- A call with given arguments. -/
def call (i : Inspector) (arguments : List String) : Call :=
  ⟨i.program :: arguments, Path.tidy i.path⟩

/-- The question whether the directory belongs to a work tree. -/
def probeCall (i : Inspector) : Call := i.call ["rev-parse", "--is-inside-work-tree"]

/-- The lines of a function in a file, as `git log` takes them. -/
def range (file name : String) : String := ":" ++ name ++ ":" ++ file

/-- The question for the history of a function. -/
def lookupCall (i : Inspector) (file name : String) : Call :=
  i.call ["log", "-L", range file name]

/-- **Makes sure that there is something to ask.** -/
def probe (git : Git) (i : Inspector) : Except HistoryError Unit :=
  match git i.probeCall with
  | .error fault => .error (.launch i.program fault)
  | .ok result => if result.status = 0 then .ok () else .error (.notWorkTree i.path)

/-- **The commits that touched a function.** -/
def lookup (git : Git) (i : Inspector) (file name : String) : Except HistoryError (List String) :=
  match git (i.lookupCall file name) with
  | .error fault => .error (.launch i.program fault)
  | .ok result =>
      match Utf8.decode result.output with
      | .ok text => .ok (commits text)
      | .error _ => .error (.notText (range file name))

end Inspector

end FunctionChurn
