import FunctionChurn.Yaml.Token.Quoted

/-!
# Plain scalars

A scalar without quotes goes on until something stops it: a colon with a blank behind it, a
comment, in a flow collection one of its marks, or a line that is not indented enough.

* `stopsPlain` is the test for the first and the third.
* `scanPlain` reads a plain scalar and tells whether it ended behind a line break.
-/

namespace FunctionChurn.Yaml

/-- The marks of flow collections that also end a plain scalar in one, behind a colon or alone. -/
def isFlowMark (c : Char) : Bool := [',', '[', ']', '\x7b', '\x7d'].contains c

/-- **Whether a plain scalar stops** at a character, given the one behind it. -/
def stopsPlain (inFlow : Bool) (ch next : Char) : Bool :=
  endsWord ch || (ch == ':' && (endsWord next || (inFlow && isFlowMark next)))
    || (inFlow && (isFlowMark ch || ch == '?'))

/-- The characters up to where a plain scalar stops. -/
def plainRun (inFlow : Bool) : List Char → List Char
  | [] => []
  | ch :: rest =>
      if stopsPlain inFlow ch (rest.headD endMark) then [] else ch :: plainRun inFlow rest

/-- The breaks of empty lines and the spaces of the next line, the place being the start of a line.
There is nothing if a document begins or ends there. -/
def scanPlainLines : (fuel : Nat) → Cursor → Option (List Char) × Cursor
  | 0, c => (none, c)
  | n + 1, c =>
      if c.atSeparator then (none, c)
      else
        let c := c.skipSpaces
        if isBreak c.peek then
          match scanPlainLines n c.advance with
          | (some more, behind) => (some (breakText c.peek ++ more), behind)
          | (none, behind) => (none, behind)
        else (some [], c)

/-- What stands between two runs of a plain scalar: the text that it counts as, whether there was
a line break, and the place behind it. -/
def scanPlainSpaces (c : Cursor) : List Char × Bool × Cursor :=
  let spaces := c.run (· == ' ')
  let c := c.advanceBy spaces.length
  if isBreak c.peek then
    match scanPlainLines (c.rest.length + 1) c.advance with
    | (some breaks, behind) => (foldBreaks c.peek breaks, true, behind)
    | (none, behind) => ([], true, behind)
  else (spaces, false, c)

/-- **A plain scalar from here on**, `spaces` being what stands before it since its last run.
With the text comes whether its last run was followed by a line break. -/
def scanPlainFrom (inFlow : Bool) (indent : Int) : (fuel : Nat) → (spaces : List Char) →
    (broken : Bool) → Cursor → List Char × Bool × Cursor
  | 0, _, broken, c => ([], broken, c)
  | n + 1, spaces, broken, c =>
      let run := if c.peek == '#' then [] else plainRun inFlow c.rest
      if run.isEmpty then ([], broken, c)
      else
        let (next, broken, behind) := scanPlainSpaces (c.advanceBy run.length)
        if next.isEmpty || behind.peek == '#' || (!inFlow && behind.column < indent) then
          (spaces ++ run, broken, behind)
        else
          let (more, broken, behind) := scanPlainFrom inFlow indent n next broken behind
          (spaces ++ run ++ more, broken, behind)

/-- **A plain scalar** that has to be indented by `indent` in the lines after its first. -/
def scanPlain (inFlow : Bool) (indent : Int) (c : Cursor) : String × Bool × Cursor :=
  let (text, broken, behind) := scanPlainFrom inFlow indent (c.rest.length + 1) [] false c
  (String.ofList text, broken, behind)

end FunctionChurn.Yaml
