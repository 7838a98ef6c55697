import FunctionChurn.Yaml.Cursor

/-!
# Tokens of a YAML text

* `Token` is what a text is made of: brackets and marks, those that only indentation shows among
  them, properties, and scalars with their text.
* `Directive` is a line that begins with a percent sign.
* `ScanFault` is why a text cannot be read any further.
-/

namespace FunctionChurn.Yaml

/-- **A directive.** -/
inductive Directive where
  | version (major : Nat)
  | tagHandle (handle start : String)
  /-- A directive of any other name, which is passed over. -/
  | other
  deriving DecidableEq, Repr

/-- **A token.** -/
inductive Token where
  | textEnd
  | directive (d : Directive)
  | documentStart
  | documentEnd
  | blockSequenceStart
  | blockMappingStart
  /-- The end of a collection that is told by indentation. -/
  | blockEnd
  | flowSequenceStart
  | flowSequenceEnd
  | flowMappingStart
  | flowMappingEnd
  | flowEntry
  | blockEntry
  | key
  | value
  | alias (name : String)
  | anchor (name : String)
  | tag (handle : Option String) (suffix : String)
  | scalar (text : String) (plain : Bool)
  deriving DecidableEq, Repr

/-- **Why a text cannot be read any further.** -/
inductive ScanFault where
  /-- It is no YAML. -/
  | malformed
  /-- A character is given by a number that is too great. -/
  | codePoint
  deriving DecidableEq, Repr

/-- The text cannot be read any further. -/
def malformed {α : Type} : Except ScanFault α := .error .malformed

end FunctionChurn.Yaml
