import FunctionChurn.Text.Blank
import FunctionChurn.Yaml.Token.Basic

/-!
# Quoted scalars

A scalar in quotes may go over several lines.  A single line break in it counts as a space, and the
blanks around line breaks do not count.  Between double quotes a backslash begins an escape.

* `scanFold` reads blanks and line breaks inside of quotes.
* `scanQuoted` reads a whole scalar.

The bodies recurse on a number that is at least the number of characters left, because each of their
steps takes one.
-/

namespace FunctionChurn.Yaml

/-! ## Line breaks in quotes -/

/-- The breaks of empty lines, the place being the start of a line.  No document may begin or end
there. -/
def scanEmptyLines : (fuel : Nat) → Cursor → Except ScanFault (List Char × Cursor)
  | 0, _ => malformed
  | n + 1, c =>
      if c.atSeparator then malformed
      else
        let c := c.skip fun ch => ch == ' ' || ch == '\t'
        if isBreak c.peek then do
          let (more, behind) ← scanEmptyLines n c.advance
          return (breakText c.peek ++ more, behind)
        else .ok ([], c)

/-- A line break and the empty lines behind it: one break alone counts as a space. -/
def foldBreaks (first : Char) (breaks : List Char) : List Char :=
  if breakText first ≠ ['\n'] then breakText first ++ breaks
  else if breaks = [] then [' '] else breaks

/-- **Blanks in quotes**, with line breaks if there are any. -/
def scanFold (c : Cursor) : Except ScanFault (List Char × Cursor) :=
  let blanks := c.run fun ch => ch == ' ' || ch == '\t'
  let c := c.advanceBy blanks.length
  if c.rest.isEmpty then malformed
  else if isBreak c.peek then do
    let (breaks, behind) ← scanEmptyLines (c.rest.length + 1) c.advance
    return (foldBreaks c.peek breaks, behind)
  else .ok (blanks, c)

/-! ## Escapes -/

/-- The characters that have a letter. -/
def namedEscape? (c : Char) : Option Char :=
  match c with
  | '0' => some '\x00'
  | 'a' => some '\x07'
  | 'b' => some '\x08'
  | 't' => some '\t'
  | '\t' => some '\t'
  | 'n' => some '\n'
  | 'v' => some '\x0b'
  | 'f' => some '\x0c'
  | 'r' => some '\r'
  | 'e' => some '\x1b'
  | ' ' => some ' '
  | '"' => some '"'
  | '\\' => some '\\'
  | '/' => some '/'
  | 'N' => some '\u0085'
  | '_' => some '\u00a0'
  | 'L' => some '\u2028'
  | 'P' => some '\u2029'
  | _ => none

/-- How many digits follow the letter of a character that is given by number. -/
def numberedEscape? (c : Char) : Option Nat :=
  match c with
  | 'x' => some 2
  | 'u' => some 4
  | 'U' => some 8
  | _ => none

/-- The last code point. -/
def lastCodePoint : Nat := 0x10FFFF

/-- The character of a code point.  Half of a surrogate pair is no character, and the replacement
character stands for it. -/
def codePointChar (code : Nat) : Char :=
  if 0xD800 ≤ code ∧ code ≤ 0xDFFF then '\ufffd' else Char.ofNat code

/-- **An escape**, behind its backslash. -/
def scanEscape (c : Cursor) : Except ScanFault (List Char × Cursor) :=
  match namedEscape? c.peek with
  | some ch => .ok ([ch], c.advance)
  | none =>
      match numberedEscape? c.peek with
      | some width =>
          let digits := (c.advance.rest.take width).filterMap Text.hexValue?
          if digits.length ≠ width then malformed
          else
            let code := digits.foldl (fun n d => n * 16 + d) 0
            if lastCodePoint < code then .error .codePoint
            else .ok ([codePointChar code], c.advanceBy (width + 1))
      | none =>
          if isBreak c.peek then scanEmptyLines (c.rest.length + 1) c.advance else malformed

/-! ## Scalars -/

/-- **What stands between quotes**, through the closing one. -/
def scanQuotedBody (double : Bool) : (fuel : Nat) → Cursor → Except ScanFault (List Char × Cursor)
  | 0, _ => malformed
  | n + 1, c => do
      let ch := c.peek
      if c.rest.isEmpty then malformed
      else if ch == ' ' || ch == '\t' || isBreak ch then
        let (text, c) ← scanFold c
        let (more, behind) ← scanQuotedBody double n c
        return (text ++ more, behind)
      else if double && ch == '\\' then
        let (text, c) ← scanEscape c.advance
        let (more, behind) ← scanQuotedBody double n c
        return (text ++ more, behind)
      else if !double && ch == '\'' && c.peekAt 1 == '\'' then
        let (more, behind) ← scanQuotedBody double n (c.advanceBy 2)
        return ('\'' :: more, behind)
      else if ch == (if double then '"' else '\'') then return ([], c.advance)
      else
        let (more, behind) ← scanQuotedBody double n c.advance
        return (ch :: more, behind)

/-- **A quoted scalar.** -/
def scanQuoted (c : Cursor) : Except ScanFault (String × Cursor) := do
  let (text, behind) ← scanQuotedBody (c.peek == '"') (c.rest.length + 1) c.advance
  return (String.ofList text, behind)

end FunctionChurn.Yaml
