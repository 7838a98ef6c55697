import FunctionChurn.Yaml.Token.Property

/-!
# Block scalars

A block scalar is a paragraph that is told by its indentation.  Its header says whether single line
breaks count as spaces, what becomes of the breaks at its end, and maybe how far it is indented.

* `BlockHeader` is the header, `scanBlockHeader` reads it.
* `scanBlock` reads a whole block scalar.
-/

namespace FunctionChurn.Yaml

/-! ## Headers -/

/-- What becomes of the line breaks at the end of a block scalar. -/
inductive Chomping where
  /-- One is kept. -/
  | clip
  /-- None is kept. -/
  | strip
  /-- All are kept. -/
  | keep
  deriving DecidableEq, Repr

/-- **The header of a block scalar.** -/
structure BlockHeader where
  folded : Bool
  chomping : Chomping
  increment : Option Nat
  deriving DecidableEq, Repr

/-- The chomping that a character asks for. -/
def chomping? (c : Char) : Option Chomping :=
  if c == '+' then some .keep else if c == '-' then some .strip else none

/-- The digit of an indentation, which is not zero. -/
def increment? (c : Char) : Except ScanFault (Option Nat) :=
  if c == '0' then malformed
  else if c.isDigit then .ok (some (c.toNat - 48)) else .ok none

/-- The two indicators of a header, in either order, and the line that they stand on. -/
def scanBlockHeader (c : Cursor) : Except ScanFault (BlockHeader × Cursor) := do
  let folded := c.peek == '>'
  let c := c.advance
  let (chomping, increment, c) ← match chomping? c.peek with
    | some chomping => do
        let c := c.advance
        match ← increment? c.peek with
        | some n => pure (chomping, some n, c.advance)
        | none => pure (chomping, none, c)
    | none => do
        match ← increment? c.peek with
        | some n =>
            let c := c.advance
            match chomping? c.peek with
            | some chomping => pure (chomping, some n, c.advance)
            | none => pure (.clip, some n, c)
        | none => pure (.clip, none, c)
  if endsField c.peek then return (⟨folded, chomping, increment⟩, ← scanLineEnd c) else malformed

/-! ## Indentation -/

/-- The empty lines before the first one of the text, and how far the widest line of spaces among
them, or that first line, is indented. -/
def scanBlockStart : (fuel : Nat) → (widest : Nat) → Cursor → List Char × Nat × Cursor
  | 0, widest, c => ([], widest, c)
  | n + 1, widest, c =>
      if c.peek == ' ' then scanBlockStart n (max widest c.advance.column) c.advance
      else if isBreak c.peek then
        let (more, widest, behind) := scanBlockStart n widest c.advance
        (breakText c.peek ++ more, widest, behind)
      else ([], widest, c)

/-- Spaces, but not beyond a column. -/
def skipIndent (indent : Nat) : (fuel : Nat) → Cursor → Cursor
  | 0, c => c
  | n + 1, c => if c.column < indent && c.peek == ' ' then skipIndent indent n c.advance else c

/-- The breaks of empty lines, and the indentation of the line behind them. -/
def scanBlockBreaks (indent : Nat) : (fuel : Nat) → Cursor → List Char × Cursor
  | 0, c => ([], c)
  | n + 1, c =>
      let c := skipIndent indent indent c
      if isBreak c.peek then
        let (more, behind) := scanBlockBreaks indent n c.advance
        (breakText c.peek ++ more, behind)
      else ([], c)

/-! ## Text -/

/-- Whether a line begins with a blank, and so is not folded. -/
def isSpaced (c : Cursor) : Bool := c.peek == ' ' || c.peek == '\t'

/-- **The lines of a block scalar**, `breaks` being those since the last of them.  With the text
come its last line break and the breaks behind that. -/
def scanBlockLines (folded : Bool) (indent : Nat) : (fuel : Nat) → (breaks : List Char) → Cursor →
    List Char × List Char × List Char × Cursor
  | 0, breaks, c => ([], [], breaks, c)
  | n + 1, breaks, c =>
      let line := c.run fun ch => !isBreak ch
      let behind := c.advanceBy line.length
      let last := if isBreak behind.peek then breakText behind.peek else []
      let (next, after) := scanBlockBreaks indent (behind.rest.length + 1)
        (if isBreak behind.peek then behind.advance else behind)
      if after.column == indent && !after.rest.isEmpty then
        let glue :=
          if folded && last == ['\n'] && !isSpaced c && !isSpaced after then
            if next.isEmpty then [' '] else []
          else last
        let (more, final, trailing, out) := scanBlockLines folded indent n next after
        (breaks ++ line ++ glue ++ more, final, trailing, out)
      else (breaks ++ line, last, next, after)

/-- **A block scalar**, the collection that it stands in being indented by `outer`. -/
def scanBlock (outer : Int) (c : Cursor) : Except ScanFault (String × Cursor) := do
  let (header, c) ← scanBlockHeader c
  let least := max 1 (outer + 1).toNat
  let (breaks, indent, c) := match header.increment with
    | none =>
        let (breaks, widest, behind) := scanBlockStart (c.rest.length + 1) 0 c
        (breaks, max least widest, behind)
    | some n =>
        let indent := least + n - 1
        let (breaks, behind) := scanBlockBreaks indent (c.rest.length + 1) c
        (breaks, indent, behind)
  let (text, last, trailing, behind) :=
    if c.column == indent && !c.rest.isEmpty then
      scanBlockLines header.folded indent (c.rest.length + 1) breaks c
    else ([], [], breaks, c)
  let ending := match header.chomping with
    | .strip => []
    | .clip => last
    | .keep => last ++ trailing
  return (String.ofList (text ++ ending), behind)

end FunctionChurn.Yaml
