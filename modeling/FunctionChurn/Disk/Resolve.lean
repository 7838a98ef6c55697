import FunctionChurn.Disk.Basic
import FunctionChurn.Disk.Fault

/-!
# From a path to what it names

Reading a path follows symbolic links, one name at a time, and can fail: something is missing, a
file stands in the middle, the links never end, or the system refuses to look.  The number of links on
the way is bounded, as it is in every system, and the bound is what makes the reading end.

* `Disk.locate` finds the place of a path and what is there, if anything.
* `Disk.find` is the node, `Disk.read` the content of a file, `Disk.isFile` whether there is one.
* `Disk.isDirectory` and `Disk.exists` are tests: what is not there is no failure for them, but what the
  system refuses is.
* `Disk.settle` is the lenient reading: what does not exist, or cannot be seen, is taken as it is written,
  and any number of links may be followed, if none of them leads back to itself.
* `Disk.prepare` opens a file to be written, making it if it was not there, and `Disk.append` writes at
  its end.
* `Disk.expandHome` replaces a tilde at the front.
-/

namespace FunctionChurn

/-- The most links that one path may lead through. -/
def linkLimit : Nat := 40

/-- The most bytes that a path may have. -/
def pathLimit : Nat := 4095

/-- The most bytes that a name may have. -/
def nameLimit : Nat := 255

/-- The components of a path, the empty ones among them: each must be read in a directory. -/
def components (path : String) : List String := Text.pieces '/' path

/-- **A place**: the names from the top, free of links, and the node there if there is one. -/
structure Place where
  steps : List String
  node : Option Node

/-- Why a path cannot be followed. -/
inductive Obstacle where
  | missing
  | notDirectory
  | tooManyLinks
  | refused (r : Refusal)
  deriving DecidableEq

/-- The failure of a system call on `path` that met an obstacle. -/
def Obstacle.fault (path : String) : Obstacle → SystemFault
  | .missing => .missing path
  | .notDirectory => .notDirectory path
  | .tooManyLinks => .tooManyLinks path
  | .refused r => r.fault path

/-- What it means that a name is not in a directory: it cannot be there if it is too long, and it is
the last one of a path or not. -/
def absence (here : List String) (name : String) (todo : List String) : Except Obstacle Place :=
  if nameLimit < name.utf8ByteSize then .error (.refused .nameTooLong)
  else if todo = [] then .ok ⟨here ++ [name], none⟩
  else .error .missing

namespace Node

def isDirectory : Node → Bool
  | directory .. => true
  | _ => false

/-- Where the reading of a link's target begins. -/
def linkStart (here : List String) (target : String) : List String :=
  if Path.isAbsolute target then [] else here

/-- **One pass along the components of a path**, up to the next link.  `bar` is what there is against
looking up a name in a directory; a slash at the end looks up none.  `jump` says how to go on from a
link: where its target is to be read from, and what is then left to read. -/
def along (top : Node) (bar : List String → Option Refusal)
    (jump : List String → List String → Except Obstacle Place) :
    List String → List String → Except Obstacle Place
  | here, [] => .ok ⟨here, top.at? here⟩
  | here, name :: todo =>
      match top.at? here with
      | some (.directory ..) =>
          if name = "" then top.along bar jump here todo
          else match bar here with
            | some r => .error (.refused r)
            | none =>
                if name = "." then top.along bar jump here todo
                else if name = ".." then top.along bar jump here.dropLast todo
                else match top.at? (here ++ [name]) with
                  | none => absence here name todo
                  | some (.link target) =>
                      if target = "" then .error .missing
                      else jump (linkStart here target) (components target ++ todo)
                  | some _ => top.along bar jump (here ++ [name]) todo
      | some _ => .error .notDirectory
      | none => .error .missing

/-- **A path followed through at most `budget` links.** -/
def follow (top : Node) (bar : List String → Option Refusal) :
    (budget : Nat) → List String → List String → Except Obstacle Place
  | 0 => top.along bar fun _ _ => .error .tooManyLinks
  | n + 1 => top.along bar (top.follow bar n)

/-- **One lenient pass**: a name that is not there is kept, and `..` takes back the name before it.  `look`
is what is seen at a place.  The target of a link is read to its end by `jump`, which is told the place of
the link.  If that does not end, what is left to read is put behind what was stuck. -/
def settleAlong (look : List String → Option Node)
    (jump : List String → List String → List String → Except (List String) (List String)) :
    List String → List String → Except (List String) (List String)
  | here, [] => .ok here
  | here, name :: todo =>
      if name = "" ∨ name = "." then settleAlong look jump here todo
      else if name = ".." then settleAlong look jump here.dropLast todo
      else match look (here ++ [name]) with
        | some (.link target) =>
            match jump (here ++ [name]) (linkStart here target) (components target) with
            | .ok there => settleAlong look jump there todo
            | .error stuck => .error (stuck ++ todo)
        | _ => settleAlong look jump (here ++ [name]) todo

/-- **The lenient reading.**  While a link is read it must not be met again, so the links that may
still be met become fewer; at one that may not, the reading is stuck. -/
def settle (look : List String → Option Node) : (depth : Nat) → (unmet : List (List String)) →
    List String → List String → Except (List String) (List String)
  | 0, _ => settleAlong look fun link _ _ => .error link
  | n + 1, unmet => settleAlong look fun link start cs =>
      if link ∈ unmet then settle look n (unmet.erase link) start cs else .error link

end Node

namespace Disk

/-! ## Finding -/

/-- Where the reading of a path begins. -/
def start (d : Disk) (path : String) : List String := if Path.isAbsolute path then [] else d.cwd

/-- **The place of a path**, its last component possibly missing.  A path with too many bytes is not
read at all. -/
def locate (d : Disk) (path : String) : Except Obstacle Place :=
  if path = "" then .error .missing
  else if pathLimit < path.utf8ByteSize then .error (.refused .nameTooLong)
  else d.top.follow (d.refuses .search) linkLimit (d.start path) (components path)

/-- The node of a path, with its place. -/
def find (d : Disk) (path : String) : Except Obstacle (List String × Node) :=
  match d.locate path with
  | .ok ⟨steps, some node⟩ => .ok (steps, node)
  | .ok ⟨_, none⟩ => .error .missing
  | .error o => .error o

/-- Whether a path names a file. -/
def isFile (d : Disk) (path : String) : Bool :=
  match d.find path with
  | .ok (_, .file ..) => true
  | _ => false

/-- **What is asked about the node of a path.**  The answer is no if there is none, and there is no
answer if the system refuses to look.  It is not asked about a path that holds the null character. -/
def ask (d : Disk) (path : String) (question : Node → Bool) : Except SystemFault Bool :=
  match d.find path with
  | .ok (_, node) => .ok (question node)
  | .error (.refused r) => if Path.holdsNull path then .ok false else .error (r.fault path)
  | .error _ => .ok false

/-- Whether a path names anything. -/
def «exists» (d : Disk) (path : String) : Except SystemFault Bool := d.ask path fun _ => true

/-- Whether a path names a directory. -/
def isDirectory (d : Disk) (path : String) : Except SystemFault Bool := d.ask path Node.isDirectory

/-- Whether something may be done at the place of a path. -/
def permit (d : Disk) (act : Act) (steps : List String) (path : String) : Except SystemFault Unit :=
  match d.refuses act steps with
  | some r => .error (r.fault path)
  | none => .ok ()

/-- **The content of a file.** -/
def read (d : Disk) (path : String) : Except SystemFault Bytes :=
  match d.find path with
  | .ok (steps, .file content _) => (d.permit .read steps path).map fun _ => content
  | .ok (_, .directory ..) => .error (.isDirectory path)
  | .ok (_, .link _) => .error (.tooManyLinks path)
  | .error o => .error (o.fault path)

/-! ## Settling -/

/-- Whether a directory on the way to a place, or at it, lets no name be looked up.  The directories above
the working directory are not on the way. -/
def hides (d : Disk) (here : List String) : Bool :=
  (List.range (here.length + 1)).any fun n =>
    (d.refuses .search (here.take n)).isSome && !((here.take n).isPrefixOf d.cwd && here.take n != d.cwd)

/-- **What is seen at a place**: nothing if its directory is hidden.  How long a path to it would be is not
looked at. -/
def look (d : Disk) (steps : List String) : Option Node :=
  if d.hides steps.dropLast then none else d.top.at? steps

/-- **The absolute path that a path settles on.**  A path with a link that leads back to itself is
taken as it is written from there on, and is given as a failure if the links make it unreadable. -/
def settle (d : Disk) (path : String) : Except String String :=
  match Node.settle d.look d.top.links.length d.top.links (d.start path) (components path) with
  | .ok there => .ok (Path.absolute there)
  | .error stuck =>
      let written := Path.absolute (Path.flatten stuck)
      match d.locate written with
      | .error .tooManyLinks => .error written
      | _ => .ok written

/-- The home directory that a first name with a tilde in front stands for. -/
def homeFor (d : Disk) (first : String) : Option String :=
  if first = "~" then some d.home else d.homeOf (String.ofList (first.toList.drop 1))

/-- **A tidy path with a tilde at its front replaced by a home directory**; none if nobody knows
it. -/
def expandHome (d : Disk) (path : String) : Option String :=
  if Path.hasTilde path then
    (d.homeFor ((Path.names path).headD "")).map fun home =>
      Path.tidy (home ++ "/" ++ Path.ofNames (Path.names path).tail)
  else some (Path.tidy path)

/-! ## Writing -/

/-- The tree with a file at a place of the working directory. -/
def write (d : Disk) (path : String) (node : Node) : Disk :=
  { d with top := d.top.put node (Path.stepsFrom d.cwd path) }

/-- The tree without what a path names. -/
def erase (d : Disk) (path : String) : Disk :=
  { d with top := d.top.remove (Path.stepsFrom d.cwd path) }

/-- **A file opened to be written**, which is made if it is not there.  Its directory has to be. -/
def prepare (d : Disk) (path : String) : Except SystemFault Disk :=
  if Path.holdsNull path then .error .nullByte
  else match d.locate path with
    | .ok ⟨steps, some (.file ..)⟩ => (d.permit .write steps path).map fun _ => d
    | .ok ⟨steps, none⟩ => (d.permit .write steps.dropLast path).map fun _ =>
        { d with top := d.top.put (.file [] false) steps }
    | .ok ⟨_, some (.directory ..)⟩ => .error (.isDirectory path)
    | .ok ⟨_, some (.link _)⟩ => .error (.tooManyLinks path)
    | .error o => .error (o.fault path)

/-- **Bytes at the end of a file** that is open. -/
def append (d : Disk) (path : String) (bytes : Bytes) : Disk :=
  match d.locate path with
  | .ok ⟨steps, some (.file content x)⟩ =>
      { d with top := d.top.put (.file (content ++ bytes) x) steps }
  | _ => d

end Disk

end FunctionChurn
