/-!
# Blanks, line ends and decimal digits

The character classes that more than one part of the library asks about.

* `isBlank` is what is trimmed from the ends of a setting or a table cell.
* `isSpacing` is the narrower class without the four information separators: it stands around
  numbers, and between the lexemes of a source file.
* `endsLine` is every character at which a text in a table cell is cut into lines.
* `digitValue?` reads a decimal digit of any script.
-/

namespace FunctionChurn.Text

/-! ## Blanks -/

/-- The separators outside ASCII that count as spacing, singly and as a range. -/
def isWideSpacing (c : Char) : Bool :=
  c == '\u0085' || c == '\u00a0' || c == '\u1680' || ('\u2000' ≤ c && c ≤ '\u200a')
    || c == '\u2028' || c == '\u2029' || c == '\u202f' || c == '\u205f' || c == '\u3000'

/-- **Spacing**: the white space of Unicode, tab to carriage return and the space among it. -/
def isSpacing (c : Char) : Bool := ('\t' ≤ c && c ≤ '\r') || c == ' ' || isWideSpacing c

/-- **Blank**: spacing and the four information separators. -/
def isBlank (c : Char) : Bool := isSpacing c || ('\u001c' ≤ c && c ≤ '\u001f')

/-- **Line ends of running text**: line feed, vertical tab, form feed, carriage return, three
information separators, next line, and the line and paragraph separators. -/
def endsLine (c : Char) : Bool :=
  ('\n' ≤ c && c ≤ '\r') || ('\u001c' ≤ c && c ≤ '\u001e') || c == '\u0085'
    || c == '\u2028' || c == '\u2029'

/-! ## Trimming -/

/-- Characters without the blanks at their front. -/
def trimStart (cs : List Char) : List Char := cs.dropWhile isBlank

/-- Characters without the blanks at their back. -/
def trimEnd (cs : List Char) : List Char := (cs.reverse.dropWhile isBlank).reverse

/-- Characters without the spacing at both ends. -/
def unspaced (cs : List Char) : List Char :=
  ((cs.dropWhile isSpacing).reverse.dropWhile isSpacing).reverse

/-- **A text without the blanks at both ends.** -/
def trim (s : String) : String := String.ofList (trimEnd (trimStart s.toList))

/-! ## Digits -/

/-- The zeros of the decimal digits: each is followed by the other nine of its script. -/
def zeros : List Nat := [
  0x30, 0x660, 0x6F0, 0x7C0, 0x966, 0x9E6, 0xA66, 0xAE6, 0xB66, 0xBE6, 0xC66, 0xCE6, 0xD66,
  0xDE6, 0xE50, 0xED0, 0xF20, 0x1040, 0x1090, 0x17E0, 0x1810, 0x1946, 0x19D0, 0x1A80, 0x1A90,
  0x1B50, 0x1BB0, 0x1C40, 0x1C50, 0xA620, 0xA8D0, 0xA900, 0xA9D0, 0xA9F0, 0xAA50, 0xABF0, 0xFF10,
  0x104A0, 0x10D30, 0x11066, 0x110F0, 0x11136, 0x111D0, 0x112F0, 0x11450, 0x114D0, 0x11650,
  0x116C0, 0x11730, 0x118E0, 0x11950, 0x11C50, 0x11D50, 0x11DA0, 0x16A60, 0x16AC0, 0x16B50,
  0x1D7CE, 0x1D7D8, 0x1D7E2, 0x1D7EC, 0x1D7F6, 0x1E140, 0x1E2F0, 0x1E950, 0x1FBF0]

/-- **The value of a decimal digit**, of any script. -/
def digitValue? (c : Char) : Option Nat :=
  (zeros.find? fun z => z ≤ c.toNat && c.toNat < z + 10).map fun z => c.toNat - z

/-- The value of a hexadecimal digit. -/
def hexValue? (c : Char) : Option Nat :=
  if '0' ≤ c && c ≤ '9' then some (c.toNat - 48)
  else if 'a' ≤ c && c ≤ 'f' then some (c.toNat - 87)
  else if 'A' ≤ c && c ≤ 'F' then some (c.toNat - 55)
  else none

end FunctionChurn.Text
