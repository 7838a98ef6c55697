import FunctionChurn.Text.Search

/-!
# Paths as texts

Paths are texts with `/` between the names.  Nothing in this module looks at a file system: two
spellings of one place stay two texts until somebody resolves them.

* `Path.join` puts an entry's name, or a relative path, behind a directory.
* `Path.baseName` and `Path.extension` look at the end of a path.
* `Path.tidy` drops what never changes the meaning of a path: dots and doubled slashes.
* `Path.stepsFrom` is the list of names from the top of the file system that a path stands for when
  it is read in a given directory, with `..` taken back textually.
* `Path.relative` is the path of one place seen from another.
-/

namespace FunctionChurn.Path

open Text

/-! ## Putting together -/

/-- **A path behind a directory.**  An absolute path forgets the directory; behind an empty
directory or one that ends in a slash no slash is added. -/
def join (directory path : String) : String :=
  if path.toList.head? = some '/' then path
  else if directory.toList = [] ∨ directory.toList.getLast? = some '/' then directory ++ path
  else directory ++ "/" ++ path

/-- Names with slashes between them. -/
def ofNames (names : List String) : String := "/".intercalate names

/-- The absolute path of a list of names. -/
def absolute (names : List String) : String := "/" ++ ofNames names

/-! ## Taking apart -/

/-- Whether a path starts at the top of the file system. -/
def isAbsolute (path : String) : Bool := path.toList.head? = some '/'

/-- Whether a path holds the null character, which no name has. -/
def holdsNull (path : String) : Bool := path.toList.contains '\x00'

/-- The characters behind the last slash. -/
def lastName (cs : List Char) : List Char := (cs.reverse.takeWhile (· != '/')).reverse

/-- The name behind the last slash. -/
def baseName (path : String) : String := String.ofList (lastName path.toList)

/-- The part of a name from its last dot on, dots at its front not counted. -/
def nameExtension (name : List Char) : List Char :=
  let body := name.dropWhile (· = '.')
  if body.contains '.' then '.' :: (body.reverse.takeWhile (· != '.')).reverse else []

/-- **The extension of a path**, with its dot; empty if there is none.  A dot of a directory's name
is not one of the last name, and dots at the front of the last name begin no extension. -/
def extension (path : String) : String := String.ofList (nameExtension (lastName path.toList))

/-- The names of a path, its empty and its `.` components left out. -/
def names (path : String) : List String := (pieces '/' path).filter fun n => n ≠ "" && n ≠ "."

/-- **Whether a path starts at somebody's home directory**: a tilde is in front of its first name. -/
def hasTilde (path : String) : Bool :=
  !isAbsolute path && ((names path).headD "").toList.head? = some '~'

/-- The slashes that a tidy path starts with: two only if there are exactly two. -/
def root (path : String) : String :=
  match path.toList with
  | '/' :: '/' :: '/' :: _ => "/"
  | '/' :: '/' :: _ => "//"
  | '/' :: _ => "/"
  | _ => ""

/-- **A tidy path**: without `.` components and repeated slashes; the empty path is `.`. -/
def tidy (path : String) : String :=
  let text := root path ++ ofNames (names path)
  if text = "" then "." else text

/-! ## Places -/

/-- One component taken from a place: `..` goes back a name and does nothing at the top. -/
def step (here : List String) (name : String) : List String :=
  if name = ".." then here.dropLast else here ++ [name]

/-- **The place of a path**, as the names from the top, read in the directory `cwd`. -/
def stepsFrom (cwd : List String) (path : String) : List String :=
  (names path).foldl step (if isAbsolute path then [] else cwd)

/-- The place of components from the top, with `..` taken back textually. -/
def flatten (components : List String) : List String :=
  (components.filter fun n => n ≠ "" && n ≠ ".").foldl step []

/-- A place without the names that it shares with another from the top on, both ways. -/
def dropShared : List String → List String → List String × List String
  | a :: as, b :: bs => if a = b then dropShared as bs else (a :: as, b :: bs)
  | as, bs => (as, bs)

/-- The way from one place to another. -/
def between (start target : List String) : List String :=
  let (up, down) := dropShared start target
  up.map (fun _ => "..") ++ down

/-- **A path seen from a directory**, both read in `cwd`. -/
def relative (cwd : List String) (path start : String) : String :=
  match between (stepsFrom cwd start) (stepsFrom cwd path) with
  | [] => "."
  | way => ofNames way

end FunctionChurn.Path
