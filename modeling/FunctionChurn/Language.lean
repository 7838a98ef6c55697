import FunctionChurn.Path
import FunctionChurn.Text.LowerCase

/-!
# The languages of a source tree

A file belongs to a language by the end of its name alone.  Three languages can be searched for
functions; everything else is `unsupported`, which is a language of its own here because unsupported
files are discovered, counted and mentioned like the others.

* `Language.tag` and `Language.ofTag` go to and from the short name of a language.
* `Language.ofPath` is the language of a file.
* `Language.searched` is the order in which a report looks at the languages.
-/

namespace FunctionChurn

/-- **What a file is written in.** -/
inductive Language where
  | go
  | rust
  | lua
  /-- Everything that cannot be searched. -/
  | unsupported
  deriving DecidableEq, Repr

namespace Language

/-- The short name of a language. -/
def tag : Language → String
  | go => "go"
  | rust => "rust"
  | lua => "lua"
  | unsupported => "unsupported"

/-- The name of a language as messages write it. -/
def label : Language → String
  | go => "Go"
  | rust => "Rust"
  | lua => "Lua"
  | unsupported => "unsupported"

/-- **The languages in the order of a report**, which also decides between rows that changed equally
often. -/
def searched : List Language := [go, rust, lua]

/-- **The language of a short name**, in any case. -/
def ofTag (name : String) : Language :=
  match Text.lowerCase name with
  | "go" => go
  | "rust" => rust
  | "lua" => lua
  | _ => unsupported

/-- The language whose files have a given extension, with its dot and in any case. -/
def ofExtension? (ext : String) : Option Language :=
  match Text.lowerCase ext with
  | ".go" => some go
  | ".rs" => some rust
  | ".lua" => some lua
  | _ => none

/-- The language that the end of a path announces, if it is one that can be searched. -/
def ofPath? (path : String) : Option Language := ofExtension? (Path.extension path)

/-- **The language of a file.** -/
def ofPath (path : String) : Language := (ofPath? path).getD unsupported

/-- Each short name leads back to its language. -/
theorem ofTag_tag (l : Language) : ofTag l.tag = l := by
  cases l <;> decide

end Language

/-- **A file that was found**, with the language it is in. -/
structure SourceFile where
  path : String
  language : Language
  deriving DecidableEq, Repr

end FunctionChurn
