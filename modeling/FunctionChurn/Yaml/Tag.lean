/-!
# Tags of scalars

A scalar without a tag of its own gets one by the way it is written: a number, a truth value, a
date, or just text.

* `Tag` are the tags that mean something here, `Tag.ofName` finds one by its full name.
* `Tag.isInt`, `Tag.isFloat` and the other tests tell how a scalar is written, each of them the
  grammar of one kind of value.
-/

namespace FunctionChurn.Yaml

/-- **What a value is.** -/
inductive Tag where
  | null
  | bool
  | int
  | float
  | binary
  | timestamp
  | str
  | seq
  | map
  | set
  | omap
  | pairs
  /-- The key whose value is merged into its mapping. -/
  | merge
  /-- The key whose value stands for its mapping. -/
  | default
  | unknown (name : String)
  deriving DecidableEq, Repr

/-- What the names of all standard tags begin with. -/
def standardTags : String := "tag:yaml.org,2002:"

namespace Tag

/-- The standard tags with their names. -/
def named : List (String × Tag) :=
  [("null", null), ("bool", bool), ("int", int), ("float", float), ("binary", binary),
    ("timestamp", timestamp), ("str", str), ("seq", seq), ("map", map), ("set", set),
    ("omap", omap), ("pairs", pairs), ("merge", merge), ("value", default)]

/-- **The tag of a full name.** -/
def ofName (name : String) : Tag :=
  match named.find? fun p => standardTags ++ p.1 == name with
  | some p => p.2
  | none => unknown name

/-! ## Forms of scalars -/

/-- Whether a word is a truth value. -/
def isBool (s : String) : Bool :=
  ["yes", "Yes", "YES", "no", "No", "NO", "true", "True", "TRUE", "false", "False", "FALSE", "on",
    "On", "ON", "off", "Off", "OFF"].contains s

/-- Whether a word is nothing. -/
def isNull (s : String) : Bool := ["", "~", "null", "Null", "NULL"].contains s

/-- Characters behind a sign, if there is one. -/
def unsigned : List Char → List Char
  | '-' :: rest => rest
  | '+' :: rest => rest
  | cs => cs

/-- A decimal digit or an underscore. -/
def isDigitLike (c : Char) : Bool := c.isDigit || c == '_'

/-- The digits of a number, underscores among them, and the rest.  The first is no underscore. -/
def digits? (cs : List Char) : Option (List Char × List Char) :=
  match cs with
  | c :: _ => if c.isDigit then some (cs.takeWhile isDigitLike, cs.dropWhile isDigitLike) else none
  | [] => none

/-- What is left behind groups of one or two digits below sixty, each after a colon. -/
def behindGroups : List Char → List Char
  | ':' :: a :: b :: rest =>
      if '0' ≤ a && a ≤ '5' && b.isDigit then behindGroups rest
      else if a.isDigit then behindGroups (b :: rest)
      else ':' :: a :: b :: rest
  | [':', a] => if a.isDigit then [] else [':', a]
  | cs => cs

/-- Whether a text is a number of the given digits behind two marks. -/
def isBased (mark : Char) (isDigit : Char → Bool) (cs : List Char) : Bool :=
  match cs with
  | '0' :: c :: rest => c == mark && !rest.isEmpty && rest.all fun d => isDigit d || d == '_'
  | _ => false

/-- An octal digit. -/
def isOctal (c : Char) : Bool := '0' ≤ c && c ≤ '7'

/-- A hexadecimal digit. -/
def isHex (c : Char) : Bool := c.isDigit || ('a' ≤ c && c ≤ 'f') || ('A' ≤ c && c ≤ 'F')

/-- Whether a text is an octal number: a zero and more digits. -/
def isOctalNumber : List Char → Bool
  | '0' :: rest => !rest.isEmpty && rest.all fun d => isOctal d || d == '_'
  | _ => false

/-- Whether a text is a decimal number, or one of several groups, without a zero in front. -/
def isDecimalNumber (cs : List Char) : Bool :=
  match digits? cs with
  | some (front, rest) =>
      if front.head? = some '0' then front == ['0'] && rest.isEmpty
      else rest.isEmpty || (behindGroups rest).isEmpty
  | none => false

/-- **Whether a text is a whole number.** -/
def isInt (cs : List Char) : Bool :=
  let body := unsigned cs
  isBased 'b' (fun c => c == '0' || c == '1') body || isOctalNumber body || isDecimalNumber body
    || isBased 'x' isHex body

/-- Whether a text is nothing, or a power of ten with a sign. -/
def isExponent : List Char → Bool
  | [] => true
  | e :: s :: rest =>
      (e == 'e' || e == 'E') && (s == '+' || s == '-') && !rest.isEmpty && rest.all Char.isDigit
  | _ => false

/-- Whether a text is a number with a point, or one of several groups with a point at its end. -/
def isPointed (cs : List Char) : Bool :=
  match digits? cs with
  | some (_, '.' :: rest) => isExponent (rest.dropWhile isDigitLike)
  | some (_, rest) =>
      match behindGroups rest with
      | '.' :: more => rest.head? = some ':' && more.all isDigitLike
      | _ => false
  | none => false

/-- Whether a text is a point with digits behind it. -/
def isPointFirst : List Char → Bool
  | '.' :: rest => match digits? rest with
      | some (_, more) => isExponent more
      | none => false
  | _ => false

/-- **Whether a text is a number with a fraction.** -/
def isFloat (cs : List Char) : Bool :=
  isPointed (unsigned cs) || isPointFirst cs
    || [".inf", ".Inf", ".INF"].contains (String.ofList (unsigned cs))
    || [".nan", ".NaN", ".NAN"].contains (String.ofList cs)

/-- So many digits from the front, and the rest. -/
def exactly? : (n : Nat) → List Char → Option (List Char × List Char)
  | 0, cs => some ([], cs)
  | n + 1, c :: rest =>
      if c.isDigit then (exactly? n rest).map fun (ds, rest) => (c :: ds, rest) else none
  | _ + 1, [] => none

/-- One digit or two, as many as there are, and the rest. -/
def oneOrTwo? : List Char → Option (List Char × List Char)
  | a :: b :: rest =>
      if a.isDigit then if b.isDigit then some ([a, b], rest) else some ([a], b :: rest) else none
  | [a] => if a.isDigit then some ([a], []) else none
  | [] => none

/-- The rest behind a given character. -/
def behind? (mark : Char) : List Char → Option (List Char)
  | c :: rest => if c = mark then some rest else none
  | [] => none

end Tag

end FunctionChurn.Yaml
