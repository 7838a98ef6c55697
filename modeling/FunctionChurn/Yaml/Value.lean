import FunctionChurn.Yaml.Graph

/-!
# Values of documents

The values of a document are found by going through its graph: first the root, then what is in it,
then what is in that.  The going through decides which of several faults is the one to report, and
it is where mappings are merged into others.

* `Value` is a value as settings look at it, cut off at a depth.
* `Construction` is the state of the going through, `Construction.run` the whole of it.
* `Graph.load` gives the value of a document.

A collection is gone through once, however many aliases lead to it, and always after the
collections that were met before it.  The keys of a mapping must not be collections.  The value of
a merge key is put in front of the pairs of its mapping, so that the mapping's own pairs win.
-/

namespace FunctionChurn.Yaml

/-- **A value**, as far as settings look into it. -/
inductive Value where
  | null
  | boolean (b : Bool)
  | integer (n : Int)
  | decimal (x : Float)
  | text (s : String)
  | list (items : List Value)
  | mapping (pairs : List (Value × Value))
  /-- A value that no setting takes: a date, bytes in a list, a pair, a set, or something too
  deep. -/
  | other
  deriving Inhabited

/-! ## Going through a graph -/

/-- **The state of the going through**: the graph with the merges made so far, the collections
still to be gone through, and the nodes that were met. -/
structure Construction where
  graph : Graph
  queue : List NodeId := []
  met : List NodeId := []

/-- A step that changes the state. -/
abbrev Construct (α : Type) := StateT Construction (Except LoadFault) α

namespace Construct

/-- The document says what cannot be. -/
def malformed {α : Type} : Construct α := throw .malformed

/-- The node of a number. -/
def cell (i : NodeId) : Construct Cell := do
  match (← get).graph.cell? i with
  | some c => return c
  | none => malformed

/-- Whether the value of a node of a tag is a collection, which is gone through later. -/
def isDeferred : Tag → Bool
  | .seq | .map | .set | .omap | .pairs => true
  | _ => false

/-- The text that a node stands for: that of a scalar, or that of a mapping's default key. -/
def scalarText (g : Graph) : (fuel : Nat) → NodeId → Option String
  | 0, _ => none
  | n + 1, i =>
      match g.cell? i with
      | some (.scalar _ text) => some text
      | some (.mapping _ pairs) =>
          match pairs.find? fun p => (g.cell? p.1).map Cell.tag == some .default with
          | some p => scalarText g n p.2
          | none => none
      | _ => none

/-- The number of steps in which every node of a graph is reached. -/
def bound (g : Graph) : Nat := g.cells.size + 1

/-- The value of a scalar of the graph. -/
def scalarValue (g : Graph) (i : NodeId) (tag : Tag) : Except LoadFault ScalarValue :=
  match scalarText g (bound g) i with
  | some text => ScalarValue.read tag text
  | none => .error .malformed

/-- **A node that is met.**  A collection is put off, anything else has its value at once. -/
def meet (i : NodeId) : Construct Unit := do
  let s ← get
  if s.met.contains i then return
  let c ← cell i
  if isDeferred c.tag then set { s with queue := s.queue ++ [i], met := i :: s.met }
  else
    let _ ← (scalarValue s.graph i c.tag : Except LoadFault ScalarValue)
    set { s with met := i :: s.met }

/-- The pairs of a node, and none if it is no mapping. -/
def pairsOf (g : Graph) (i : NodeId) : List (NodeId × NodeId) :=
  match g.cell? i with
  | some (.mapping _ pairs) => pairs
  | _ => []

/-- Whether a node is a key of a given tag. -/
def hasTag (g : Graph) (tag : Tag) (i : NodeId) : Bool := (g.cell? i).map Cell.tag == some tag

/-- A default key made a text like any other. -/
def plainKey (g : Graph) (i : NodeId) : Graph :=
  match g.cell? i with
  | some (.scalar .default text) => g.set i (.scalar .str text)
  | _ => g

/-- **The merges of a mapping made.**  Its merge keys are taken away, and the pairs of what they
lead to are put in front of the others; of a list of mappings the first one wins. -/
def merge : (fuel : Nat) → NodeId → Graph → Except LoadFault Graph
  | 0, _, g => .ok g
  | n + 1, i, g =>
      match g.cell? i with
      | some (.mapping tag pairs) => do
          let own := pairs.filter fun p => !hasTag g .merge p.1
          let sources := (pairs.filter fun p => hasTag g .merge p.1).map Prod.snd
          let g := own.foldl (fun g p => plainKey g p.1) (g.set i (.mapping tag own))
          let (g, merged) ← sources.foldlM (fun (g, merged) j => do
            match g.cell? j with
            | some (.mapping ..) => do
                let g ← merge n j g
                return (g, merged ++ pairsOf g j)
            | some (.sequence _ items) => do
                let (g, lists) ← items.foldlM (fun (g, lists) k => do
                  match g.cell? k with
                  | some (.mapping ..) => do
                      let g ← merge n k g
                      return (g, pairsOf g k :: lists)
                  | _ => throw .malformed) (g, [])
                return (g, merged ++ lists.flatten)
            | _ => throw .malformed) (g, [])
          return g.set i (.mapping tag (merged ++ pairsOf g i))
      | _ => .ok g

/-- The key and the value of a pair met.  The key must not be a collection. -/
def meetPair (p : NodeId × NodeId) : Construct Unit := do
  meet p.1
  if isDeferred (← cell p.1).tag then malformed
  meet p.2

/-- The pairs of a mapping met, after its merges. -/
def visitPairs (i : NodeId) : Construct Unit := do
  let s ← get
  let g ← (merge (bound s.graph) i s.graph : Except LoadFault Graph)
  set { s with graph := g }
  (pairsOf g i).forM meetPair

/-- An item of a list of pairs met: a mapping with one pair. -/
def meetSingle (i : NodeId) : Construct Unit := do
  match ← cell i with
  | .mapping _ [p] => do
      meet p.1
      meet p.2
  | _ => malformed

/-- **A collection gone through.** -/
def visit (i : NodeId) : Construct Unit := do
  match ← cell i with
  | .sequence .seq items => items.forM meet
  | .sequence .omap items => items.forM meetSingle
  | .sequence .pairs items => items.forM meetSingle
  | .mapping .map _ => visitPairs i
  | .mapping .set _ => visitPairs i
  | _ => malformed

/-- **All that waits gone through**, and what is met on the way. -/
def run : (fuel : Nat) → Construct Unit
  | 0 => return
  | n + 1 => do
      let s ← get
      match s.queue with
      | [] => return
      | i :: rest =>
          set { s with queue := rest }
          visit i
          run n

/-- **A whole document gone through**, from its root. -/
def all (root : NodeId) : Construct Unit := do
  meet root
  run (bound (← get).graph)

end Construct

/-! ## Values -/

namespace Graph

/-- The bytes of a text as numbers. -/
def byteList (bytes : Bytes) : Value := .list (bytes.map fun b => .integer b.toNat)

/-- The value of a scalar that is read.  Bytes are a list of numbers, unless they stand in a list.
-/
def ofScalar (inList : Bool) : ScalarValue → Value
  | .null => .null
  | .boolean b => .boolean b
  | .integer n => .integer n
  | .decimal x => .decimal x
  | .text s => .text s
  | .binary bytes => if inList then .other else byteList bytes
  | .moment _ => .other

/-- **The value of a node**, cut off below `depth` collections. -/
def value (g : Graph) : (depth : Nat) → (inList : Bool) → NodeId → Value
  | depth, inList, i =>
      match g.cell? i with
      | none => .other
      | some c =>
          if Construct.isDeferred c.tag then
            match depth with
            | 0 => .other
            | n + 1 =>
                match c with
                | .sequence .seq items => .list (items.map (g.value n true))
                | .sequence _ items => .list (items.map fun _ => .other)
                | .mapping .map pairs =>
                    .mapping (pairs.map fun p => (g.value n false p.1, g.value n false p.2))
                | _ => .other
          else
            match Construct.scalarValue g i c.tag with
            | .ok v => ofScalar inList v
            | .error _ => .other

/-- How deep settings look into a document: the mapping, a list in it, and the items. -/
def settingsDepth : Nat := 3

/-- **The value of a document**, or the first fault that is met in it. -/
def load (g : Graph) (root : NodeId) : Except LoadFault Value :=
  match StateT.run (Construct.all root) { graph := g } with
  | .error f => .error f
  | .ok (_, s) => .ok (s.graph.value settingsDepth false root)

end Graph

end FunctionChurn.Yaml
