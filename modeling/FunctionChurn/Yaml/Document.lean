import FunctionChurn.Yaml.Token.Scan
import FunctionChurn.Yaml.Value

/-!
# Reading a YAML text

* `Yaml.graph` is the graph of the document in a text, and its root.
* `Yaml.read` is the value of a text; a text without a document has the value null.
* `LoadFault.message` is the sentence for a fault that is more than bad YAML.

A text is scanned only as far as its grammar is followed, so a fault of the grammar in front of a
character that does not exist is the one that is met.
-/

namespace FunctionChurn.Yaml

/-- The most characters of a text that is no whole number that are told, with its quotes. -/
def quotedLimit : Nat := 200

/-- The sentence for a fault.  What is wrong with bad YAML is not told. -/
def LoadFault.message : LoadFault → String
  | .malformed => ""
  | .codePoint => "chr() arg not in range(0x110000)"
  | .moment f => f.message
  | .tooLong digits =>
      "Exceeds the limit (" ++ toString Integer.digitLimit
        ++ " digits) for integer string conversion: value has " ++ toString digits
        ++ " digits; use sys.set_int_max_str_digits() to increase the limit"
  | .notInteger base text =>
      "invalid literal for int() with base " ++ toString base ++ ": "
        ++ String.ofList ((Text.quote text).toList.take quotedLimit)
  | .notNumber text => "could not convert string to float: " ++ Text.quote text
  | .emptyNumber => "string index out of range"
  | .notBoolean text => Text.quote text
  | .notMoment => "'NoneType' object has no attribute 'groupdict'"

/-- **The graph of the document in a text**, and its root; none if there is no document. -/
def graph (text : List Char) : Except LoadFault (Option (Graph × NodeId)) :=
  if !text.all isPrintable then .error .malformed
  else
    let (tokens, fault) := scanTokens text
    match fault, Graph.ofTokens tokens with
    | none, .ok found => .ok found
    | some .codePoint, .error .cut => .error .codePoint
    | some .codePoint, .ok _ => .error .codePoint
    | _, _ => .error .malformed

/-- **The value of a text.** -/
def read (text : List Char) : Except LoadFault Value := do
  match ← graph text with
  | none => return .null
  | some (g, root) => g.load root

end FunctionChurn.Yaml
