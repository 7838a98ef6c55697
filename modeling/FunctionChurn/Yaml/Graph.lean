import FunctionChurn.Yaml.Scalar
import FunctionChurn.Yaml.Token.Basic

/-!
# The graph of a document

A document is a graph of scalars, sequences and mappings: an alias leads back to a node that was
named before, maybe to one that it stands in.  The graph is kept as a table of cells that refer to
each other by number, so that it is finite whatever the aliases do.

* `Cell` is a node, `Graph` the table, and `Graph.root` where a document begins.
* `Composing` is the state in which tokens are read, `ComposeFault` why they cannot be.
* `Graph.ofTokens` reads the tokens of a text, in which there may be one document or none.

The reading follows the grammar by recursive descent.  Each function takes a number that goes down
with every call; `composeFuel` is enough of it, as no token is passed by more than a few calls.
-/

namespace FunctionChurn.Yaml

/-! ## The table -/

/-- The number of a node. -/
abbrev NodeId := Nat

/-- **A node**, with its tag. -/
inductive Cell where
  | scalar (tag : Tag) (text : String)
  | sequence (tag : Tag) (items : List NodeId)
  | mapping (tag : Tag) (pairs : List (NodeId × NodeId))
  deriving DecidableEq, Repr

/-- The tag of a node. -/
def Cell.tag : Cell → Tag
  | scalar t _ => t
  | sequence t _ => t
  | mapping t _ => t

/-- **The nodes of a document.** -/
structure Graph where
  cells : Array Cell := #[]
  deriving DecidableEq, Repr

namespace Graph

/-- The node of a number. -/
def cell? (g : Graph) (i : NodeId) : Option Cell := g.cells[i]?

/-- The graph with a node put in place of another. -/
def set (g : Graph) (i : NodeId) (c : Cell) : Graph := ⟨g.cells.setIfInBounds i c⟩

end Graph

/-! ## The state -/

/-- **Why tokens are no document.** -/
inductive ComposeFault where
  | malformed
  /-- The tokens end too soon. -/
  | cut
  deriving DecidableEq, Repr

/-- **The state of the reading**: the tokens that are left, the nodes so far, the names of nodes,
and what tag handles stand for. -/
structure Composing where
  tokens : List Token
  graph : Graph := {}
  anchors : List (String × NodeId) := []
  handles : List (String × String) := []

/-- A reading that changes the state. -/
abbrev Compose (α : Type) := StateT Composing (Except ComposeFault) α

namespace Compose

/-- The tokens are no document. -/
def malformed {α : Type} : Compose α := throw .malformed

/-- The next token. -/
def peek : Compose Token := do
  match (← get).tokens with
  | t :: _ => return t
  | [] => throw .cut

/-- The next token is passed. -/
def skip : Compose Unit := modify fun s => { s with tokens := s.tokens.tail }

/-- A new node. -/
def newCell (c : Cell) : Compose NodeId := do
  let s ← get
  set { s with graph := ⟨s.graph.cells.push c⟩ }
  return s.graph.cells.size

/-- A node put in place of another. -/
def setCell (i : NodeId) (c : Cell) : Compose Unit :=
  modify fun s => { s with graph := s.graph.set i c }

/-- A name given to a node. -/
def name (anchor : Option String) (i : NodeId) : Compose Unit :=
  match anchor with
  | some a => modify fun s => { s with anchors := (a, i) :: s.anchors }
  | none => pure ()

/-- The node of a name. -/
def named (a : String) : Compose NodeId := do
  match (← get).anchors.lookup a with
  | some i => return i
  | none => malformed

/-- An empty scalar, which is nothing. -/
def nothing : Compose NodeId := newCell (.scalar (.ofPlain "") "")

/-! ## Properties -/

/-- **What stands in front of a node**: a name and a tag, in either order. -/
structure Properties where
  anchor : Option String := none
  tag : Option String := none

/-- The full name of a tag. -/
def fullTag (handle : Option String) (suffix : String) : Compose String := do
  match handle with
  | none => return suffix
  | some h =>
      match (← get).handles.lookup h with
      | some start => return start ++ suffix
      | none => malformed

/-- The properties in front of a node.  A name must be new. -/
def properties : Compose Properties := do
  let first ← match ← peek with
    | .anchor a => do skip; pure { anchor := some a : Properties }
    | .tag h s => do skip; pure { tag := some (← fullTag h s) : Properties }
    | _ => pure {}
  let both ← match ← peek, first.anchor, first.tag with
    | .tag h s, some _, none => do skip; pure { first with tag := some (← fullTag h s) }
    | .anchor a, none, some _ => do skip; pure { first with anchor := some a }
    | _, _, _ => pure first
  match both.anchor with
  | some a => if ((← get).anchors.lookup a).isSome then malformed else return both
  | none => return both

/-- The tag of a scalar.  An exclamation mark alone makes it plain. -/
def scalarTag (tag : Option String) (text : String) (plain : Bool) : Tag :=
  match tag with
  | none => if plain then .ofPlain text else .str
  | some "!" => .ofPlain text
  | some t => .ofName t

/-- The tag of a collection. -/
def collectionTag (tag : Option String) (usual : Tag) : Tag :=
  match tag with
  | none => usual
  | some "!" => usual
  | some t => .ofName t

/-- A scalar with its properties. -/
def scalar (p : Properties) (text : String) (plain : Bool) : Compose NodeId := do
  let i ← newCell (.scalar (scalarTag p.tag text plain) text)
  name p.anchor i
  return i

/-- A sequence with its properties, its items being read while it already has its name. -/
def sequence (p : Properties) (items : Compose (List NodeId)) : Compose NodeId := do
  let tag := collectionTag p.tag .seq
  let i ← newCell (.sequence tag [])
  name p.anchor i
  setCell i (.sequence tag (← items))
  return i

/-- A mapping with its properties, its pairs being read while it already has its name. -/
def mapping (p : Properties) (pairs : Compose (List (NodeId × NodeId))) : Compose NodeId := do
  let tag := collectionTag p.tag .map
  let i ← newCell (.mapping tag [])
  name p.anchor i
  setCell i (.mapping tag (← pairs))
  return i

/-! ## Grammar -/

/-- The tokens that end a node of a block collection before it began. -/
def endsBlockNode (t : Token) : Bool := t == .key || t == .value || t == .blockEnd

/-- The tokens that end a node of a flow sequence before it began. -/
def endsFlowItem (t : Token) : Bool := t == .flowEntry || t == .flowSequenceEnd

/-- The tokens that end a node of a flow mapping before it began. -/
def endsFlowValue (t : Token) : Bool := t == .flowEntry || t == .flowMappingEnd

/-- A node, unless a token of the given kind comes first: then nothing. -/
def orNothing (ends : Token → Bool) (read : Compose NodeId) : Compose NodeId := do
  if ends (← peek) then nothing else read

/-- The value of a key, if there is one. -/
def valueUnless (ends : Token → Bool) (read : Compose NodeId) : Compose NodeId := do
  if (← peek) == .value then
    skip
    orNothing ends read
  else nothing

/-- The comma between two items of a flow collection. -/
def comma (first : Bool) : Compose Unit := do
  if first then return
  else if (← peek) == .flowEntry then skip
  else malformed

mutual

/-- **A node.**  Inside of block collections it can be a block collection itself, and as a value a
sequence that is not indented. -/
def node : (fuel : Nat) → (inBlock indentless : Bool) → Compose NodeId
  | 0, _, _ => malformed
  | n + 1, inBlock, indentless => do
      match ← peek with
      | .alias a => do
          skip
          named a
      | _ => do
          let p ← properties
          match ← peek with
          | .scalar text plain => do
              skip
              scalar p text plain
          | .flowSequenceStart => do
              skip
              sequence p (flowItems n true)
          | .flowMappingStart => do
              skip
              mapping p (flowPairs n true)
          | t =>
              if indentless && t == .blockEntry then sequence p (indentlessItems n)
              else if inBlock && t == .blockSequenceStart then do
                skip
                sequence p (blockItems n)
              else if inBlock && t == .blockMappingStart then do
                skip
                mapping p (blockPairs n)
              else if p.anchor.isSome || p.tag.isSome then scalar p "" true
              else malformed

/-- The items of a block sequence. -/
def blockItems : (fuel : Nat) → Compose (List NodeId)
  | 0 => malformed
  | n + 1 => do
      match ← peek with
      | .blockEntry => do
          skip
          let ends (t : Token) := t == .blockEntry || t == .blockEnd
          let item ← orNothing ends (node n true false)
          return item :: (← blockItems n)
      | .blockEnd => do
          skip
          return []
      | _ => malformed

/-- The items of a sequence that is not indented; nothing marks its end. -/
def indentlessItems : (fuel : Nat) → Compose (List NodeId)
  | 0 => malformed
  | n + 1 => do
      match ← peek with
      | .blockEntry => do
          skip
          let ends (t : Token) := t == .blockEntry || endsBlockNode t
          let item ← orNothing ends (node n true false)
          return item :: (← indentlessItems n)
      | _ => return []

/-- The pairs of a block mapping. -/
def blockPairs : (fuel : Nat) → Compose (List (NodeId × NodeId))
  | 0 => malformed
  | n + 1 => do
      match ← peek with
      | .key => do
          skip
          let key ← orNothing endsBlockNode (node n true true)
          let value ← valueUnless endsBlockNode (node n true true)
          return (key, value) :: (← blockPairs n)
      | .blockEnd => do
          skip
          return []
      | _ => malformed

/-- The items of a flow sequence.  A pair in it is a mapping of its own. -/
def flowItems : (fuel : Nat) → (first : Bool) → Compose (List NodeId)
  | 0, _ => malformed
  | n + 1, first => do
      if (← peek) == .flowSequenceEnd then
        skip
        return []
      else
        comma first
        match ← peek with
        | .key => do
            skip
            let item ← mapping {} do
              let key ← orNothing (fun t => t == .value || endsFlowItem t) (node n false false)
              let value ← valueUnless endsFlowItem (node n false false)
              return [(key, value)]
            return item :: (← flowItems n false)
        | .flowSequenceEnd => do
            skip
            return []
        | _ => do
            let item ← node n false false
            return item :: (← flowItems n false)

/-- The pairs of a flow mapping.  A key may stand alone. -/
def flowPairs : (fuel : Nat) → (first : Bool) → Compose (List (NodeId × NodeId))
  | 0, _ => malformed
  | n + 1, first => do
      if (← peek) == .flowMappingEnd then
        skip
        return []
      else
        comma first
        match ← peek with
        | .key => do
            skip
            let key ← orNothing (fun t => t == .value || endsFlowValue t) (node n false false)
            let value ← valueUnless endsFlowValue (node n false false)
            return (key, value) :: (← flowPairs n false)
        | .flowMappingEnd => do
            skip
            return []
        | _ => do
            let key ← node n false false
            let value ← nothing
            return (key, value) :: (← flowPairs n false)

end

/-! ## Documents -/

/-- What tag handles stand for without any directive. -/
def usualHandles : List (String × String) := [("!", "!"), ("!!", standardTags)]

/-- The directives in front of a document. -/
def directives : (fuel : Nat) → (version : Bool) → (handles : List (String × String)) →
    Compose (List (String × String))
  | 0, _, _ => malformed
  | n + 1, version, handles => do
      match ← peek with
      | .directive (.version major) => do
          skip
          if version || major ≠ 1 then malformed else directives n true handles
      | .directive (.tagHandle handle start) => do
          skip
          if (handles.lookup handle).isSome then malformed
          else directives n version ((handle, start) :: handles)
      | .directive .other => do
          skip
          directives n version handles
      | _ => return handles ++ usualHandles

/-- The marks of the end of a document. -/
def skipDocumentEnds : (fuel : Nat) → Compose Unit
  | 0 => malformed
  | n + 1 => do
      if (← peek) == .documentEnd then
        skip
        skipDocumentEnds n

/-- Whether a token ends a document before its node began. -/
def endsDocument (t : Token) : Bool :=
  match t with
  | .directive _ | .documentStart | .documentEnd | .textEnd => true
  | _ => false

/-- A document that begins with its mark, directives before it allowed; none at the end of the
text. -/
def explicitDocument (fuel : Nat) : Compose (Option NodeId) := do
  skipDocumentEnds fuel
  if (← peek) == .textEnd then return none
  let handles ← directives fuel false []
  modify fun s => { s with handles := handles }
  if (← peek) == .documentStart then
    skip
    return some (← orNothing endsDocument (node fuel true false))
  else malformed

/-- **The document of a text**, if there is one.  The first may do without its mark, and there
must be no second. -/
def document (fuel : Nat) : Compose (Option NodeId) := do
  let root ← match ← peek with
    | .directive _ | .documentStart | .textEnd => explicitDocument fuel
    | _ => do
        modify fun s => { s with handles := usualHandles }
        pure (some (← node fuel true false))
  if root.isNone then return none
  if (← peek) == .documentEnd then skip
  skipDocumentEnds fuel
  if (← peek) == .textEnd then return root else malformed

end Compose

/-- Enough for the reading of so many tokens. -/
def composeFuel (tokens : Nat) : Nat := 4 * tokens + 8

/-- **The graph of the document** that tokens make up, and its root; none if there is no document.
-/
def Graph.ofTokens (tokens : List Token) : Except ComposeFault (Option (Graph × NodeId)) :=
  match (Compose.document (composeFuel tokens.length)).run { tokens := tokens } with
  | .error f => .error f
  | .ok (root, s) => .ok (root.map fun i => (s.graph, i))

end FunctionChurn.Yaml
