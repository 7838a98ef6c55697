import FunctionChurn.Text.Blank
import FunctionChurn.Text.Utf8
import FunctionChurn.Yaml.Token.Basic

/-!
# Names, tags and directives

The parts of a YAML text that say something about a value or about the document.

* `scanName` reads the name behind an asterisk or an ampersand.
* `scanTag` reads a tag, in one of its three forms.
* `scanDirective` reads a directive line.
-/

namespace FunctionChurn.Yaml

/-! ## Names -/

/-- What may stand behind the name of an anchor or an alias. -/
def endsName (c : Char) : Bool :=
  endsWord c || ['?', ':', ',', ']', '\x7d', '%', '@', '\x60'].contains c

/-- **The name behind the mark of an anchor or an alias.** -/
def scanName (c : Cursor) : Except ScanFault (String × Cursor) :=
  let c := c.advance
  let name := c.run isNameChar
  let behind := c.advanceBy name.length
  if name.isEmpty || !endsName behind.peek then malformed
  else .ok (String.ofList name, behind)

/-! ## Tags -/

/-- Whether an address may hold a character as it is. -/
def isAddressChar (c : Char) : Bool :=
  c.isAlphanum || ['-', ';', '/', '?', ':', '@', '&', '=', '+', '$', ',', '_', '.', '!', '~', '*',
    '\'', '(', ')', '[', ']'].contains c

/-- The bytes of an address that are given by number, and what is left behind them. -/
def numberedBytes : List Char → Option (Bytes × List Char)
  | '%' :: a :: b :: rest => do
      let x ← Text.hexValue? a
      let y ← Text.hexValue? b
      let (more, rest) ← numberedBytes rest
      return (UInt8.ofNat (x * 16 + y) :: more, rest)
  | '%' :: _ => none
  | rest => some ([], rest)

/-- **The characters of an address**, the bytes given by number read as text. -/
def addressChars : (fuel : Nat) → List Char → Option (List Char)
  | 0, _ => none
  | n + 1, cs =>
      match cs with
      | '%' :: _ => do
          let (bytes, rest) ← numberedBytes cs
          let text ← (Utf8.decode bytes).toOption
          return text ++ (← addressChars n rest)
      | c :: rest => if isAddressChar c then (addressChars n rest).map (c :: ·) else some []
      | [] => some []

/-- **An address.**  There is at least a character in it. -/
def scanAddress (c : Cursor) : Except ScanFault (String × Cursor) :=
  let raw := c.run fun ch => isAddressChar ch || ch == '%'
  match addressChars (raw.length + 1) raw with
  | some text => if raw.isEmpty then malformed else .ok (String.ofList text, c.advanceBy raw.length)
  | none => malformed

/-- **A tag handle**: an exclamation mark, or a name between two of them. -/
def scanHandle (c : Cursor) : Except ScanFault (String × Cursor) :=
  if c.peek != '!' then malformed
  else if c.peekAt 1 == ' ' then .ok ("!", c.advance)
  else
    let name := c.advance.run isNameChar
    if c.peekAt (name.length + 1) != '!' then malformed
    else .ok (String.ofList ('!' :: (name ++ ['!'])), c.advanceBy (name.length + 2))

/-- Whether there is an exclamation mark in the word behind the first character. -/
def hasHandle (c : Cursor) : Bool :=
  (c.advance.rest.takeWhile fun ch => !endsField ch).contains '!'

/-- **A tag**: in angle brackets, alone, or with a handle; only the first has none. -/
def scanTag (c : Cursor) : Except ScanFault ((Option String × String) × Cursor) := do
  let next := c.peekAt 1
  let (tag, behind) ←
    if next == '<' then do
      let (address, behind) ← scanAddress (c.advanceBy 2)
      if behind.peek != '>' then malformed else pure ((none, address), behind.advance)
    else if endsWord next then pure ((none, "!"), c.advance)
    else if hasHandle c then do
      let (handle, behind) ← scanHandle c
      let (address, behind) ← scanAddress behind
      pure ((some handle, address), behind)
    else do
      let (address, behind) ← scanAddress c.advance
      pure ((some "!", address), behind)
  if endsField behind.peek then .ok (tag, behind) else malformed

/-! ## Directives -/

/-- The rest of a line that may only hold a comment, and the line break. -/
def scanLineEnd (c : Cursor) : Except ScanFault Cursor :=
  let c := c.skipSpaces.skipComment
  if !endsLine c.peek then malformed
  else if isBreak c.peek then .ok c.advance else .ok c

/-- A number of a version. -/
def scanNumber (c : Cursor) : Except ScanFault (Nat × Cursor) :=
  let digits := c.run Char.isDigit
  if digits.isEmpty then malformed
  else .ok (digits.foldl (fun n d => n * 10 + (d.toNat - 48)) 0, c.advanceBy digits.length)

/-- A version: two numbers with a point between them. -/
def scanVersion (c : Cursor) : Except ScanFault (Directive × Cursor) := do
  let (major, c) ← scanNumber c.skipSpaces
  if c.peek != '.' then malformed
  else do
    let (_, c) ← scanNumber c.advance
    if endsField c.peek then .ok (.version major, c) else malformed

/-- A tag handle and what it stands for. -/
def scanTagHandle (c : Cursor) : Except ScanFault (Directive × Cursor) := do
  let (handle, c) ← scanHandle c.skipSpaces
  if c.peek != ' ' then malformed
  else do
    let (start, c) ← scanAddress c.skipSpaces
    if endsField c.peek then .ok (.tagHandle handle start, c) else malformed

/-- **A directive line.** -/
def scanDirective (c : Cursor) : Except ScanFault (Directive × Cursor) := do
  let c := c.advance
  let name := c.run isNameChar
  let behind := c.advanceBy name.length
  if name.isEmpty || !endsField behind.peek then malformed
  else do
    let (directive, behind) ← match String.ofList name with
      | "YAML" => scanVersion behind
      | "TAG" => scanTagHandle behind
      | _ => pure (.other, behind.skip fun ch => !isBreak ch)
    return (directive, ← scanLineEnd behind)

end FunctionChurn.Yaml
