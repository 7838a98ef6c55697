import FunctionChurn.Language

/-!
# Function queries

What counts as a function of a language is written down in a query: patterns over syntax, with the
parts to report marked by an `@` and a name.  The packaged queries are data; here they are texts,
and a query is read only for its shape.

* `packagedQuery` is the text that comes with a language.
* `Query.captures?` lists the marked names of a query in the order of their first appearance, or
  refuses a query whose brackets do not match.
-/

namespace FunctionChurn

/-! ## The packaged queries -/

/-- The query for Go: receivers, method names, function names. -/
def goQuery : String :=
  "\n".intercalate [
    "; Methods yield the receiver list first, then the method name. Plain",
    "; functions only yield their name. Both names share one capture so they get",
    "; the same capture index.",
    "",
    "(method_declaration",
    "  receiver: (parameter_list) @receiver)",
    "",
    "(method_declaration",
    "  name: (field_identifier) @name)",
    "",
    "(function_declaration",
    "  name: (identifier) @name)",
    ""]

/-- The query for Rust: functions that have a body. -/
def rustQuery : String :=
  "\n".intercalate [
    "; Free functions, associated functions, methods and nested functions.",
    "",
    "(function_item",
    "  name: (identifier) @name)",
    ""]

/-- The query for Lua: the three shapes of the name of a function. -/
def luaQuery : String :=
  "\n".intercalate [
    "; function foo() / local function foo()",
    "(function_declaration",
    "  name: (identifier) @name)",
    "",
    "; function mod.foo()",
    "(function_declaration",
    "  name: (dot_index_expression",
    "    field: (identifier) @name))",
    "",
    "; function Class:foo()",
    "(function_declaration",
    "  name: (method_index_expression",
    "    method: (identifier) @name))",
    ""]

/-- **The query that comes with a language.** -/
def packagedQuery : Language → Option String
  | .go => some goQuery
  | .rust => some rustQuery
  | .lua => some luaQuery
  | .unsupported => none

/-! ## Reading a query -/

namespace Query

/-- Whether a character can stand in a capture's name. -/
def isNameChar (c : Char) : Bool := c.isAlphanum || c == '_' || c == '-' || c == '.'

/-- The closing bracket for an opening one. -/
def partner? (c : Char) : Option Char :=
  if c = '(' then some ')' else if c = '[' then some ']' else none

/-- What the reading of a query is inside of. -/
inductive Inside where
  | pattern
  | comment
  | quoted
  /-- The name of a capture, its characters so far in reverse. -/
  | capture (name : List Char)

/-- A name at the end of a list of names, unless it is among them. -/
def note (names : List String) (name : List Char) : List String :=
  let s := String.ofList name.reverse
  if names.contains s then names else names ++ [s]

/-- What a character does outside of comments, quotes and names: the brackets still to be closed
after it, and what it begins. -/
def read (c : Char) (due : List Char) : Option (List Char × Inside) :=
  if c = ';' then some (due, .comment)
  else if c = '"' then some (due, .quoted)
  else if c = '@' then some (due, .capture [])
  else match partner? c with
    | some closing => some (closing :: due, .pattern)
    | none =>
        if c = ')' ∨ c = ']' then
          match due with
          | d :: rest => if d = c then some (rest, .pattern) else none
          | [] => none
        else some (due, .pattern)

/-- **The captures of a query**, `due` being the brackets still to be closed and `names` the
captures met so far. -/
def capturesFrom (names : List String) (due : List Char) : Inside → List Char → Option (List String)
  | .capture name, [] => if due.isEmpty then some (note names name) else none
  | _, [] => if due.isEmpty then some names else none
  | .comment, c :: rest => capturesFrom names due (if c = '\n' then .pattern else .comment) rest
  | .quoted, c :: rest => capturesFrom names due (if c = '"' then .pattern else .quoted) rest
  | .capture name, c :: rest =>
      if isNameChar c then capturesFrom names due (.capture (c :: name)) rest
      else match read c due with
        | some (due', inside) => capturesFrom (note names name) due' inside rest
        | none => none
  | .pattern, c :: rest =>
      match read c due with
      | some (due', inside) => capturesFrom names due' inside rest
      | none => none

/-- **The names that a query marks**, if its brackets match. -/
def captures? (source : List Char) : Option (List String) := capturesFrom [] [] .pattern source

/-- A text read as a query for its shape. -/
def compile (source : List Char) : Except String (List String) :=
  match captures? source with
  | some names => .ok names
  | none => .error "its brackets do not match"

end Query

end FunctionChurn
