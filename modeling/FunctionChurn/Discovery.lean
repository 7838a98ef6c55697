import FunctionChurn.Disk.Resolve
import FunctionChurn.Language

/-!
# Finding the source files

All files below a root directory are found, whatever they are; links to directories are not
entered, so the search ends and meets no file twice.  What is found can be narrowed by the
beginnings of paths and by texts that must not occur in them.  A directory that the system refuses to
list, or whose path it does not take, is passed over.

* `Disk.list` is what one directory holds, `Disk.walk` the search level by level, and
  `Disk.filesBelow` the paths that it finds below a root.
* `Filter` narrows them, `Filter.keeps` is its test.
* `Filter.classify` is what becomes of one path, `discover` of all of them, sorted, and `Disk.search`
  of what is below a root.

A file whose name begins with a dot is never reported, but directories whose names do are
searched.  A name that is no text cannot be part of a report, so nothing below it is.
-/

namespace FunctionChurn

/-! ## The walk -/

/-- **What a directory holds**: the paths of its files and of its directories. -/
structure Listing where
  files : List String := []
  directories : List String := []
  deriving DecidableEq, Repr

/-- **The listing of the directory at a path**, by its entries.  A link counts as a file if it leads
to one; any other link is passed over. -/
def Entries.listing (d : Disk) (path : String) : Entries → Listing
  | .none => {}
  | .entry (.raw _) _ others => others.listing d path
  | .entry (.text name) node others =>
      let here := Path.join path name
      let rest := others.listing d path
      match node with
      | .directory .. => { rest with directories := here :: rest.directories }
      | .file .. => { rest with files := here :: rest.files }
      | .link _ => if d.isFile here then { rest with files := here :: rest.files } else rest

/-- What a path holds.  One that is no directory, or cannot be listed, holds nothing. -/
def Disk.list (d : Disk) (path : String) : Listing :=
  match d.find path with
  | .ok (_, .directory true es) => es.listing d path
  | _ => {}

/-- **The files in some directories and below them**, level by level: those in the directories
themselves, then those one level down, as long as there are directories and for at most so many
levels. -/
def Disk.walk (d : Disk) : (levels : Nat) → List String → List String
  | 0, _ => []
  | _, [] => []
  | n + 1, level =>
      let listings := level.map d.list
      listings.flatMap Listing.files ++ d.walk n (listings.flatMap Listing.directories)

mutual

/-- How many directories can stand in each other, from a node on. -/
def Node.depth : Node → Nat
  | .directory _ es => es.depth + 1
  | _ => 0

/-- How many directories can stand in each other among some entries. -/
def Entries.depth : Entries → Nat
  | .none => 0
  | .entry _ node others => max node.depth others.depth

end

/-- **The files below a root**, by their paths with the root in front as it was spelled.  A root
that is no directory, or cannot be listed, has none.  There are no more levels than directories in
each other. -/
def Disk.filesBelow (d : Disk) (root : String) : List String := d.walk d.top.depth [root]

/-- How many directories are listed at each level of a walk. -/
def Disk.levels (d : Disk) : (levels : Nat) → List String → List Nat
  | 0, _ => []
  | _, [] => []
  | n + 1, level =>
      level.length :: d.levels n ((level.map d.list).flatMap Listing.directories)

/-- How many directories are listed at each level below a root; the root alone at the first. -/
def Disk.levelsBelow (d : Disk) (root : String) : List Nat := d.levels (d.top.depth + 1) [root]

/-! ## Narrowing -/

/-- **What a search is narrowed to**: paths that begin with one of the prefixes, if there are any,
and hold none of the excluded texts. -/
structure Filter where
  prefixes : List String := []
  excluded : List String := []
  deriving DecidableEq, Repr

namespace Filter

/-- Whether a path begins as it should. -/
def admits (f : Filter) (path : String) : Bool :=
  f.prefixes.isEmpty || f.prefixes.any (Text.startsWith path)

/-- Whether a path holds an excluded text. -/
def excludes (f : Filter) (path : String) : Bool := f.excluded.any (Text.contains path)

/-- Whether the name of a file is hidden. -/
def isHidden (path : String) : Bool := (Path.baseName path).toList.head? = some '.'

/-- **Whether a path is kept.** -/
def keeps (f : Filter) (path : String) : Bool := !isHidden path && f.admits path && !f.excludes path

/-- What becomes of a path. -/
def classify (f : Filter) (path : String) : Option SourceFile :=
  if f.keeps path then some ⟨path, Language.ofPath path⟩ else none

/-- What becomes of a path that is given as bytes: one that is no text is dropped. -/
def classifyBytes (f : Filter) (path : Bytes) : Option SourceFile :=
  match Utf8.decode path with
  | .ok text => f.classify (String.ofList text)
  | .error _ => none

end Filter

/-- **The files of a list of paths that are kept**, in the order of their paths.  That order is assumed:
a walk gives the files in the order in which the system lists its directories, which may be any. -/
def discover (f : Filter) (paths : List String) : List SourceFile :=
  (paths.filterMap f.classify).mergeSort fun a b => a.path ≤ b.path

/-- **The files below a root that are kept**; nothing if there are none. -/
def Disk.search (d : Disk) (f : Filter) (root : String) : Option (List SourceFile) :=
  match discover f (d.filesBelow root) with
  | [] => none
  | files => some files

end FunctionChurn
