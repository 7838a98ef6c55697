import FunctionChurn.Grammar.Query
import FunctionChurn.Text.Content
import FunctionChurn.Disk.Fault

/-!
# The grammar registry

A grammar and a query are loaded once in a process and then kept.  Loading can fail, because a
grammar is missing or broken or because the file of a query is; a failure is not kept, so that a
later call succeeds as soon as the cause is gone.

* `Supplies` is where grammars and query files come from; it may change between two calls.
* `Registry` is what was loaded so far.  Loaded things carry a number that is never used twice, so
  that "the same object" is a statement about the state.
* `Registry.grammar` and `Registry.query` load or look up; `Supplies.querySource` only reads.
  What makes a text a query is up to whoever reads it, so that is one of the supplies.
* `GrammarError` is why that can fail.
-/

namespace FunctionChurn

/-! ## Supplies -/

/-- What loading a grammar comes to. -/
inductive Loader where
  /-- There is no grammar to load. -/
  | absent
  | failing (reason : String)
  | working
  deriving DecidableEq, Repr

/-- **Where grammars and queries come from.**  `directory` is the path that messages give for the
query files. -/
structure Supplies where
  loader : Language → Loader
  directory : String
  queryFile : String → Except SystemFault Bytes
  /-- The names that a text marks when it is read as a query for a language, or the reason why it is
  none. -/
  compile : Language → List Char → Except String (List String)

/-- Why a grammar or a query cannot be had. -/
inductive GrammarError where
  | unavailable (language : Language)
  | loading (language : Language) (reason : String)
  | queryMissing (language : Language)
  | queryUnreadable (language : Language) (reason : String)
  | queryInvalid (language : Language) (reason : String)
  deriving DecidableEq, Repr

/-- The name of the query file of a language. -/
def Language.queryName (l : Language) : String := l.tag ++ ".scm"

/-- The sentence for a grammar error. -/
def GrammarError.message : GrammarError → String
  | .unavailable l => "No grammar available for " ++ l.tag
  | .loading l reason => "Can't load the " ++ l.tag ++ " grammar: " ++ reason
  | .queryMissing l => l.queryName ++ " not found"
  | .queryUnreadable l reason => "Can't read " ++ l.queryName ++ ": " ++ reason
  | .queryInvalid l reason => "Invalid query " ++ l.queryName ++ ": " ++ reason

namespace Supplies

/-- The path of the query file of a language. -/
def queryPath (s : Supplies) (l : Language) : String := Path.join s.directory l.queryName

/-- **The text of a language's query.** -/
def querySource (s : Supplies) (l : Language) : Except GrammarError (List Char) :=
  match s.queryFile (s.queryPath l) with
  | .error fault =>
      if fault.code = some 2 then .error (.queryMissing l)
      else .error (.queryUnreadable l fault.message)
  | .ok bytes =>
      match Text.ofContent bytes with
      | .ok text => .ok text
      | .error m => .error (.queryUnreadable l m.message)

/-- The directory that stands for the packaged queries. -/
def packagedDirectory : String := "queries"

/-- The packaged query file at a path. -/
def packagedFile (path : String) : Except SystemFault Bytes :=
  let wanted := Language.searched.find? fun l => Path.join packagedDirectory l.queryName = path
  match wanted.bind packagedQuery with
  | some text => .ok (Utf8.encode text.toList)
  | none => .error (.missing path)

/-- **What the program comes with**: the grammars and the queries of the three languages. -/
def packaged : Supplies where
  loader l := if l = .unsupported then .absent else .working
  directory := packagedDirectory
  queryFile := packagedFile
  compile _ := Query.compile

end Supplies

/-! ## What was loaded -/

/-- A loaded grammar. -/
structure Grammar where
  language : Language
  number : Nat
  deriving DecidableEq, Repr

/-- A query that was read with a grammar. -/
structure Query where
  language : Language
  number : Nat
  captures : List String
  deriving DecidableEq, Repr

/-- **What was loaded so far**, and the number of the next thing to be loaded. -/
structure Registry where
  grammars : Language → Option Grammar := fun _ => none
  queries : Language → Option Query := fun _ => none
  next : Nat := 0

namespace Registry

/-- The registry with one more grammar. -/
def addGrammar (r : Registry) (g : Grammar) : Registry :=
  { r with
    grammars := fun l => if l = g.language then some g else r.grammars l
    next := r.next + 1 }

/-- The registry with one more query. -/
def addQuery (r : Registry) (q : Query) : Registry :=
  { r with
    queries := fun l => if l = q.language then some q else r.queries l
    next := r.next + 1 }

/-- **The grammar of a language**, loaded now if it was not before. -/
def grammar (r : Registry) (s : Supplies) (l : Language) : Except GrammarError Grammar × Registry :=
  match r.grammars l with
  | some g => (.ok g, r)
  | none =>
      match s.loader l with
      | .absent => (.error (.unavailable l), r)
      | .failing reason => (.error (.loading l reason), r)
      | .working => (.ok ⟨l, r.next⟩, r.addGrammar ⟨l, r.next⟩)

/-- **The query of a language**, read now if it was not before.  The grammar is loaded first and stays
loaded even if the query turns out to be unusable. -/
def query (r : Registry) (s : Supplies) (l : Language) : Except GrammarError Query × Registry :=
  match r.queries l with
  | some q => (.ok q, r)
  | none =>
      match r.grammar s l with
      | (.error e, r') => (.error e, r')
      | (.ok _, r') =>
          match s.querySource l with
          | .error e => (.error e, r')
          | .ok source =>
              match s.compile l source with
              | .error reason => (.error (.queryInvalid l reason), r')
              | .ok names => (.ok ⟨l, r'.next, names⟩, r'.addQuery ⟨l, r'.next, names⟩)

/-- What a searcher for a language needs: its grammar, and then its query. -/
def equip (r : Registry) (s : Supplies) (l : Language) : Except GrammarError Query × Registry :=
  match r.grammar s l with
  | (.error e, r') => (.error e, r')
  | (.ok _, r') => r'.query s l

end Registry

end FunctionChurn
