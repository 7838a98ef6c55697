import FunctionChurn.Language
import FunctionChurn.Source.Go
import FunctionChurn.Source.Rust
import FunctionChurn.Source.Lua

/-!
# Searching a source file

Each language has its own search; what they have in common is the answer, a list of occurrences in
the order of the file.
-/

namespace FunctionChurn

/-- **The occurrences in a source file**, by its language.  An unsupported file has none. -/
def Language.occurrences : Language → List Char → List Source.Occurrence
  | go => Source.Go.declared
  | rust => Source.Rust.defined
  | lua => Source.Lua.named
  | unsupported => fun _ => []

end FunctionChurn
