/-!
# UTF-8 with the place of the first fault

File contents and what a subprocess prints are bytes; everything the report says is text.  The
decoder here is strict: it refuses overlong forms, surrogates and code points past `10FFFF`, and
a refusal says which bytes are at fault and why, because that sentence ends up in warnings.

* `Utf8.decode` reads bytes as text, or gives the first `Utf8.Malformed` stretch.
* `Utf8.encode` writes text as bytes.
* `Utf8.Malformed.message` is the sentence for a refusal.

The decoder is a machine that takes one byte at a time.  Between characters it looks at a lead
byte; inside a character it knows how many bytes are still owed and which range the next one may
have, so that the narrow second-byte ranges of `E0`, `ED`, `F0` and `F4` need no rule of their own.
-/

namespace FunctionChurn

/-- Raw content, as files and pipes hold it. -/
abbrev Bytes := List UInt8

namespace Utf8

/-! ## Refusals -/

/-- Why a stretch of bytes is not text. -/
inductive Fault where
  /-- No character begins with this byte. -/
  | noStart
  /-- A character was begun and the next byte does not go on with it. -/
  | noContinuation
  /-- The bytes end inside a character. -/
  | cutShort
  deriving DecidableEq, Repr

/-- **The first stretch that is not text**: its first byte, where it begins, how many bytes
it has, and the reason. -/
structure Malformed where
  first : UInt8
  position : Nat
  length : Nat
  fault : Fault
  deriving DecidableEq, Repr

/-- The words for a fault. -/
def Fault.text : Fault → String
  | .noStart => "invalid start byte"
  | .noContinuation => "invalid continuation byte"
  | .cutShort => "unexpected end of data"

/-- The lower-case hexadecimal digit of a value below sixteen. -/
def hexDigit (n : Nat) : Char := (Nat.toDigits 16 n).headD '0'

/-- A byte as two lower-case hexadecimal digits. -/
def hexByte (b : UInt8) : String :=
  String.ofList [hexDigit (b.toNat / 16), hexDigit (b.toNat % 16)]

/-- **The sentence for a refusal.**  One bad byte is shown; of several, only the positions of the
first and the last are given. -/
def Malformed.message (m : Malformed) : String :=
  if m.length = 1 then
    "'utf-8' codec can't decode byte 0x" ++ hexByte m.first ++ " in position "
      ++ toString m.position ++ ": " ++ m.fault.text
  else
    "'utf-8' codec can't decode bytes in position " ++ toString m.position ++ "-"
      ++ toString (m.position + m.length - 1) ++ ": " ++ m.fault.text

/-! ## The machine -/

/-- **A character in the making**: its lead byte, the bytes read so far, the bytes still owed after
the next one, the range of the next one, and the value gathered so far. -/
structure Open where
  lead : UInt8
  seen : Nat
  after : Nat
  low : UInt8
  high : UInt8
  value : Nat

/-- What a byte does between two characters. -/
inductive Opening where
  | whole (c : Char)
  | more (o : Open)
  | refused

/-- **Lead bytes.**  One range for each length, and the narrow second-byte range where the full
one would let in an overlong form, a surrogate or a value past the last code point. -/
def Opening.of (b : UInt8) : Opening :=
  if b < 0x80 then .whole (Char.ofNat b.toNat)
  else if b < 0xC2 then .refused
  else if b < 0xE0 then .more ⟨b, 1, 0, 0x80, 0xBF, b.toNat - 0xC0⟩
  else if b = 0xE0 then .more ⟨b, 1, 1, 0xA0, 0xBF, 0⟩
  else if b = 0xED then .more ⟨b, 1, 1, 0x80, 0x9F, 0xD⟩
  else if b < 0xF0 then .more ⟨b, 1, 1, 0x80, 0xBF, b.toNat - 0xE0⟩
  else if b = 0xF0 then .more ⟨b, 1, 2, 0x90, 0xBF, 0⟩
  else if b < 0xF4 then .more ⟨b, 1, 2, 0x80, 0xBF, b.toNat - 0xF0⟩
  else if b = 0xF4 then .more ⟨b, 1, 2, 0x80, 0x8F, 4⟩
  else .refused

/-- The value after one more continuation byte. -/
def Open.push (o : Open) (b : UInt8) : Nat := o.value * 64 + (b.toNat - 0x80)

/-- **The run of the machine.**  `pos` counts the bytes already taken. -/
def run (pos : Nat) : Option Open → Bytes → Except Malformed (List Char)
  | none, [] => .ok []
  | some o, [] => .error ⟨o.lead, pos - o.seen, o.seen, .cutShort⟩
  | none, b :: rest =>
      match Opening.of b with
      | .whole c => (run (pos + 1) none rest).map (c :: ·)
      | .more o => run (pos + 1) (some o) rest
      | .refused => .error ⟨b, pos, 1, .noStart⟩
  | some o, b :: rest =>
      if o.low ≤ b ∧ b ≤ o.high then
        match o.after with
        | 0 => (run (pos + 1) none rest).map (Char.ofNat (o.push b) :: ·)
        | n + 1 => run (pos + 1) (some ⟨o.lead, o.seen + 1, n, 0x80, 0xBF, o.push b⟩) rest
      else .error ⟨o.lead, pos - o.seen, o.seen, .noContinuation⟩

/-- **Bytes as text**, or the first stretch that is none. -/
def decode (bytes : Bytes) : Except Malformed (List Char) := run 0 none bytes

/-- Text as bytes. -/
def encode (text : List Char) : Bytes := text.flatMap String.utf8EncodeChar

/-- Whether the bytes are text at all. -/
def isText (bytes : Bytes) : Bool := (decode bytes).isOk

end Utf8

end FunctionChurn
