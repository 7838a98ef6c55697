import FunctionChurn.Yaml.Token.Block
import FunctionChurn.Yaml.Token.Plain
import FunctionChurn.Yaml.Token.Property

/-!
# From a text to its tokens

The structure of a YAML text shows partly in marks and partly in columns.  The scan keeps the
indentation of the open collections, and closes those that a new line stands to the left of.

* `Scan` is the state of the scan.
* `Scan.step` reads one token, with the ends of collections before it.
* `scanTokens` reads a whole text: the tokens, and the fault at which they stop if there is one.

That something is a key of a mapping shows only at the colon behind it.  So every place where a
key may have begun is remembered as a `PendingKey`, one for each level of flow collections, and
the colon puts the mark of a key in front of the token that began there.  A key has to stand on
one line, within a certain length.

When the scan stops at a fault, the tokens behind the first pending key are not given: whether they
belong to a key was not known yet.
-/

namespace FunctionChurn.Yaml

/-! ## The state -/

/-- **A place where a key may have begun.**  One that begins a line of a block mapping has to be a
key. -/
structure PendingKey where
  /-- How many tokens stand before it. -/
  number : Nat
  required : Bool
  index : Nat
  line : Nat
  column : Nat

/-- **The state of the scan.**  The tokens so far are in reverse; the pending keys and the
indentations of the outer collections begin with the innermost. -/
structure Scan where
  cursor : Cursor
  tokens : List Token := []
  count : Nat := 0
  indent : Int := -1
  outer : List Int := []
  /-- The pending key of the current level, and those of the levels around it. -/
  pending : Option PendingKey := none
  levels : List (Option PendingKey) := []
  keyAllowed : Bool := true

/-- The length within which a key has to end. -/
def keyLimit : Nat := 1024

namespace Scan

/-- Whether the scan is inside of a flow collection. -/
def inFlow (s : Scan) : Bool := !s.levels.isEmpty

/-- The state with one more token. -/
def push (s : Scan) (t : Token) : Scan := { s with tokens := t :: s.tokens, count := s.count + 1 }

/-- The state with a token put where a number of others stand before it. -/
def insertAt (s : Scan) (number : Nat) (t : Token) : Scan :=
  let behind := s.count - number
  { s with
    tokens := s.tokens.take behind ++ t :: s.tokens.drop behind
    count := s.count + 1 }

/-- The state at another place of the text. -/
def goto (s : Scan) (c : Cursor) : Scan := { s with cursor := c }

/-- The column of the next character. -/
def column (s : Scan) : Int := s.cursor.column

/-! ## Pending keys -/

/-- Whether a pending key is out of reach. -/
def isStale (c : Cursor) (k : PendingKey) : Bool :=
  k.line ≠ c.line || k.index + keyLimit < c.index

/-- A pending key, unless it is out of reach; a required one must not be. -/
def fresh (c : Cursor) : Option PendingKey → Except ScanFault (Option PendingKey)
  | none => .ok none
  | some k => if isStale c k then if k.required then malformed else .ok none else .ok (some k)

/-- The state without the pending keys that are out of reach. -/
def dropStale (s : Scan) : Except ScanFault Scan := do
  return { s with
    pending := ← fresh s.cursor s.pending
    levels := ← s.levels.mapM (fresh s.cursor) }

/-- The state without the pending key of the current level, which must not be a required one. -/
def dropKey (s : Scan) : Except ScanFault Scan :=
  match s.pending with
  | some k => if k.required then malformed else .ok { s with pending := none }
  | none => .ok s

/-- **The state in which a key may begin here**, if keys are allowed. -/
def noteKey (s : Scan) : Except ScanFault Scan :=
  if s.keyAllowed then do
    let required := !s.inFlow && s.indent == s.column
    let s ← s.dropKey
    return { s with
      pending := some ⟨s.count, required, s.cursor.index, s.cursor.line, s.cursor.column⟩ }
  else .ok s

/-- The state in which keys are allowed, or not. -/
def allowKey (s : Scan) (allowed : Bool) : Scan := { s with keyAllowed := allowed }

/-! ## Indentation -/

/-- The ends of the block collections that stand to the right of a column. -/
def closeBlocks (column : Int) (s : Scan) : Scan :=
  if s.inFlow then s else go s s.outer
where
  /-- The collections are closed one after the other, from the innermost. -/
  go (s : Scan) : List Int → Scan
    | [] => { s with outer := [] }
    | before :: others =>
        if column < s.indent then go { s.push .blockEnd with indent := before } others
        else { s with outer := before :: others }

/-- Whether a collection begins at a column, and the state in which it is open. -/
def openBlock (column : Int) (s : Scan) : Bool × Scan :=
  if s.indent < column then (true, { s with indent := column, outer := s.indent :: s.outer })
  else (false, s)

/-- The state with a collection open at the current column, if none is yet. -/
def openHere (t : Token) (s : Scan) : Scan :=
  match s.openBlock s.column with
  | (true, s) => s.push t
  | (false, s) => s

/-! ## Between the tokens -/

/-- The place of the next token, and whether there was a line break before it. -/
def nextToken : (fuel : Nat) → (broken : Bool) → Cursor → Bool × Cursor
  | 0, broken, c => (broken, c)
  | n + 1, broken, c =>
      let c := c.skipSpaces.skipComment
      if isBreak c.peek then nextToken n true c.advance else (broken, c)

/-- The place behind a byte order mark at the very start of a text. -/
def skipByteOrderMark (c : Cursor) : Cursor :=
  if c.index == 0 && c.peek == '\uFEFF' then c.advance else c

/-- **The state at the next token**, the collections that end before it closed. -/
def prepare (s : Scan) : Except ScanFault Scan := do
  let c := skipByteOrderMark s.cursor
  let (broken, c) := nextToken (c.rest.length + 1) false c
  let s := { s.goto c with keyAllowed := s.keyAllowed || (broken && !s.inFlow) }
  return (← s.dropStale).closeBlocks s.column

/-! ## Tokens -/

/-- A token of some characters that is neither a key nor part of one. -/
def mark (s : Scan) (t : Token) (length : Nat) : Scan := (s.goto (s.cursor.advanceBy length)).push t

/-- The start or the end of a document. -/
def separator (s : Scan) (t : Token) : Except ScanFault Scan := do
  return ((← (s.closeBlocks (-1)).dropKey).allowKey false).mark t 3

/-- A directive. -/
def directive (s : Scan) : Except ScanFault Scan := do
  let s := (← (s.closeBlocks (-1)).dropKey).allowKey false
  let (d, behind) ← scanDirective s.cursor
  return (s.goto behind).push (.directive d)

/-- The start of a flow collection, which may begin a key. -/
def openFlow (s : Scan) (t : Token) : Except ScanFault Scan := do
  let s ← s.noteKey
  let s := (s.allowKey true).mark t 1
  return { s with levels := s.pending :: s.levels, pending := none }

/-- The end of a flow collection. -/
def closeFlow (s : Scan) (t : Token) : Except ScanFault Scan := do
  let s := ((← s.dropKey).allowKey false).mark t 1
  match s.levels with
  | pending :: levels => return { s with levels := levels, pending := pending }
  | [] => malformed

/-- A comma of a flow collection. -/
def flowEntry (s : Scan) : Except ScanFault Scan := do
  return (← (s.allowKey true).dropKey).mark .flowEntry 1

/-- A dash of a block sequence. -/
def blockEntry (s : Scan) : Except ScanFault Scan := do
  if !s.inFlow && !s.keyAllowed then malformed
  else
    let s := if s.inFlow then s else s.openHere .blockSequenceStart
    return (← (s.allowKey true).dropKey).mark .blockEntry 1

/-- A question mark before a key. -/
def explicitKey (s : Scan) : Except ScanFault Scan := do
  if !s.inFlow && !s.keyAllowed then malformed
  else
    let s := if s.inFlow then s else s.openHere .blockMappingStart
    return (← (s.allowKey (!s.inFlow)).dropKey).mark .key 1

/-- A colon before a value.  If a key is pending, its mark is put in its place. -/
def value (s : Scan) : Except ScanFault Scan := do
  match s.pending with
  | some k =>
      let s := { s with pending := none }.insertAt k.number .key
      let s := if s.inFlow then s else
        match s.openBlock k.column with
        | (true, s) => s.insertAt k.number .blockMappingStart
        | (false, s) => s
      return (s.allowKey false).mark .value 1
  | none =>
      if !s.inFlow && !s.keyAllowed then malformed
      else
        let s := if s.inFlow then s else s.openHere .blockMappingStart
        return (s.allowKey (!s.inFlow)).mark .value 1

/-- A token that may be a key, or the start of one. -/
def keyToken (s : Scan) (scan : Cursor → Except ScanFault (Token × Cursor)) :
    Except ScanFault Scan := do
  let s := (← s.noteKey).allowKey false
  let (t, behind) ← scan s.cursor
  return (s.goto behind).push t

/-- A plain scalar. -/
def plain (s : Scan) : Except ScanFault Scan := do
  let s ← s.noteKey
  let (text, broken, behind) := scanPlain s.inFlow (s.indent + 1) s.cursor
  return ((s.goto behind).allowKey broken).push (.scalar text true)

/-- A block scalar, which is no key. -/
def block (s : Scan) : Except ScanFault Scan := do
  let s ← (s.allowKey true).dropKey
  let (text, behind) ← scanBlock s.indent s.cursor
  return (s.goto behind).push (.scalar text false)

/-- The end of the text. -/
def finish (s : Scan) : Except ScanFault Scan := do
  let s ← (s.closeBlocks (-1)).dropKey
  return ({ s with levels := [] }.allowKey false).push .textEnd

/-- The marks that no plain scalar begins with. -/
def indicators : List Char :=
  ['-', '?', ':', ',', '[', ']', '\x7b', '\x7d', '#', '&', '*', '!', '|', '>', '\'', '"', '%', '@',
    '\x60']

/-- Whether a plain scalar begins here. -/
def beginsPlain (s : Scan) : Bool :=
  let c := s.cursor.peek
  (!endsWord c && !indicators.contains c)
    || (!endsWord (s.cursor.peekAt 1) && (c == '-' || (!s.inFlow && (c == '?' || c == ':'))))

/-- **One token**, the state standing in front of it. -/
def token (s : Scan) : Except ScanFault Scan :=
  let c := s.cursor
  let next := c.peekAt 1
  if c.rest.isEmpty then s.finish
  else if c.peek == '%' && c.column == 0 then s.directive
  else if c.column == 0 && c.isMarker '-' then s.separator .documentStart
  else if c.column == 0 && c.isMarker '.' then s.separator .documentEnd
  else if c.peek == '[' then s.openFlow .flowSequenceStart
  else if c.peek == '\x7b' then s.openFlow .flowMappingStart
  else if c.peek == ']' then s.closeFlow .flowSequenceEnd
  else if c.peek == '\x7d' then s.closeFlow .flowMappingEnd
  else if c.peek == ',' then s.flowEntry
  else if c.peek == '-' && endsWord next then s.blockEntry
  else if c.peek == '?' && (s.inFlow || endsWord next) then s.explicitKey
  else if c.peek == ':' && (s.inFlow || endsWord next) then s.value
  else if c.peek == '*' then s.keyToken fun c => (scanName c).map fun (n, c) => (.alias n, c)
  else if c.peek == '&' then s.keyToken fun c => (scanName c).map fun (n, c) => (.anchor n, c)
  else if c.peek == '!' then s.keyToken fun c => (scanTag c).map fun (t, c) => (.tag t.1 t.2, c)
  else if (c.peek == '|' || c.peek == '>') && !s.inFlow then s.block
  else if c.peek == '\'' || c.peek == '"' then
    s.keyToken fun c => (scanQuoted c).map fun (text, c) => (.scalar text false, c)
  else if s.beginsPlain then s.plain
  else malformed

/-! ## Whole texts -/

/-- How many tokens are certain when the scan stops in front of one. -/
def certain (s : Scan) : Nat :=
  let pending := if s.keyAllowed then s.levels else s.pending :: s.levels
  (pending.filterMap fun k => k.map PendingKey.number).foldl min s.count

/-- **The tokens of a text from here on**, and the fault at which they stop. -/
def run : (fuel : Nat) → Scan → List Token × Option ScanFault
  | 0, s => (s.tokens.reverse, some .malformed)
  | n + 1, s =>
      match s.prepare with
      | .error f => (s.tokens.reverse, some f)
      | .ok s =>
          match s.token with
          | .error f => (s.tokens.reverse.take s.certain, some f)
          | .ok s' =>
              if s.cursor.rest.isEmpty then (s'.tokens.reverse, none) else run n s'

end Scan

/-- **The tokens of a text**, and the fault at which they stop if there is one. -/
def scanTokens (text : List Char) : List Token × Option ScanFault :=
  Scan.run (text.length + 1) { cursor := { rest := text } }

end FunctionChurn.Yaml
