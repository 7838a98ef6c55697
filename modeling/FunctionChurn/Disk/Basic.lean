import FunctionChurn.Disk.Fault
import FunctionChurn.Text.Utf8
import FunctionChurn.Path

/-!
# A file tree

What a run can see of the file system is a finite tree of directories, files and symbolic links.  It
is a value: a run that writes gives a new tree.

* `Node` is a file, a link, or a directory with its `Entries`.
* `Node.at?` goes down the tree by names, without following links.
* `Node.put` and `Node.remove` change the tree at one place.
* `Node.links` are the places of all links in it.
* `Disk` is a tree with a working directory in it, and with what the system refuses to do there.

A name is normally text.  A name whose bytes are not text is kept as `EntryName.raw`, so that it can
be met in a listing, but nothing can be reached by it.
-/

namespace FunctionChurn

/-- The name of a directory entry. -/
inductive EntryName where
  | text (name : String)
  /-- Bytes that are not text. -/
  | raw (bytes : Bytes)
  deriving DecidableEq

mutual

/-- **What stands under a name.** -/
inductive Node where
  | file (content : Bytes) (executable : Bool)
  /-- A symbolic link, with its target as it was written. -/
  | link (target : String)
  /-- A directory; one that is not listable hides its entries. -/
  | directory (listable : Bool) (entries : Entries)

/-- **The entries of a directory**, in the order of its listing. -/
inductive Entries where
  | none
  | entry (name : EntryName) (node : Node) (others : Entries)

end

namespace Entries

/-- The entry of a name. -/
def find? (name : String) : Entries → Option Node
  | none => .none
  | entry n node others => if n = .text name then some node else others.find? name

/-- The entries with one put in place of the one of its name, or at the end. -/
def insert (name : String) (node : Node) : Entries → Entries
  | none => .entry (.text name) node .none
  | entry n old others =>
      if n = .text name then .entry n node others else .entry n old (others.insert name node)

/-- The entries without the one of a name. -/
def erase (name : String) : Entries → Entries
  | none => .none
  | entry n node others => if n = .text name then others else .entry n node (others.erase name)

end Entries

namespace Node

/-- An empty directory. -/
def emptyDirectory : Node := .directory true .none

/-- The entries of a directory; anything else has none. -/
def entries : Node → Entries
  | directory _ es => es
  | _ => .none

/-- The entry of a name. -/
def child? (node : Node) (name : String) : Option Node := node.entries.find? name

/-- **The node at the end of a list of names**, links not followed. -/
def at? (node : Node) : List String → Option Node
  | [] => some node
  | name :: rest => match node.child? name with
      | some next => next.at? rest
      | none => none

/-- **The tree with a node put at a place.**  Directories on the way are made if need be, and
whatever stood there and is none gives way. -/
def put (old : Node) (new : Node) : List String → Node
  | [] => new
  | name :: rest =>
      let listable := match old with
        | directory l _ => l
        | _ => true
      .directory listable
        (old.entries.insert name (((old.child? name).getD emptyDirectory).put new rest))

/-- The tree without the node at a place. -/
def remove (old : Node) : List String → Node
  | [] => old
  | name :: rest => match old with
      | directory l es =>
          if rest = [] then .directory l (es.erase name)
          else match es.find? name with
            | some next => .directory l (es.insert name (next.remove rest))
            | none => old
      | _ => old

end Node

mutual

/-- **The places of the links** at a node and below it. -/
def Node.links : Node → List (List String)
  | .file .. => []
  | .link _ => [[]]
  | .directory _ es => es.links

/-- The places of the links among some entries and below them. -/
def Entries.links : Entries → List (List String)
  | .none => []
  | .entry (.raw _) _ others => others.links
  | .entry (.text name) node others => node.links.map (name :: ·) ++ others.links

end

/-- **What is done at a place.** -/
inductive Act where
  /-- A name is looked up in a directory. -/
  | search
  /-- A file is opened to be read. -/
  | read
  /-- A file is opened to be written, or made in a directory. -/
  | write
  deriving DecidableEq

/-- **A file tree with a working directory.**  `home` is the directory that a leading tilde stands
for, `homeOf` that of a leading tilde with a user's name behind it, and `refuses` is what the system
does not let the run do at a place, for want of a permission or for reasons of its own. -/
structure Disk where
  top : Node
  cwd : List String
  home : String
  homeOf : String → Option String := fun _ => none
  refuses : Act → List String → Option Refusal := fun _ _ => none

end FunctionChurn
