import FunctionChurn.Proofs.Disk.Walk
import FunctionChurn.Proofs.Discovery

/-!
# What a search for files finds

The search goes by paths and its filters test paths, but what there is to find is a matter of the tree:
names that lead from the root to a file.  The two are tied together here, one path for each list of
names.

* `Disk.Finds` says which names a search finds, by the tree and by the texts of its filters.
* `Disk.sourceAt` is the file at some names below a root, as a search reports it.
* **`Disk.discover_filesBelow`**: what is discovered below a root, file by file.
* **`Disk.search_filesBelow`**: the search ends, and finds these files and each once.
-/

namespace FunctionChurn

namespace Disk

/-- **The files that a search finds below a root**, by their names from there on: the last name is not
hidden, and the path begins with a prefix, if there are any, and holds no excluded text. -/
structure Finds (d : Disk) (f : Filter) (root : String) (names : List String) : Prop where
  below : d.FileBelow root names
  shown : ∀ name, names.getLast? = some name → name.toList.head? ≠ some '.'
  admitted : f.prefixes = [] ∨
    ∃ start ∈ f.prefixes, start.toList <+: (Path.join root (Path.ofNames names)).toList
  clean : ∀ term ∈ f.excluded, ¬ term.toList <:+: (Path.join root (Path.ofNames names)).toList

/-- The file at some names below a root. -/
def sourceAt (root : String) (names : List String) : SourceFile :=
  ⟨Path.join root (Path.ofNames names), Language.ofPath (Path.join root (Path.ofNames names))⟩

end Disk

/-! ## The filters -/

namespace Filter

variable {f : Filter} {path : String}

lemma admits_iff :
    f.admits path ↔ f.prefixes = [] ∨ ∃ start ∈ f.prefixes, start.toList <+: path.toList := by
  rw [admits, Bool.or_eq_true, List.isEmpty_iff, List.any_eq_true]
  simp only [Text.startsWith_iff]

lemma not_excludes_iff :
    f.excludes path = false ↔ ∀ term ∈ f.excluded, ¬ term.toList <:+: path.toList := by
  rw [excludes, List.any_eq_false]
  simp only [Text.contains_iff]

/-- The name of a file is hidden or not, wherever its directory is. -/
lemma isHidden_join (root : String) {name : String} {names : List String}
    (h : ∀ n ∈ names ++ [name], Path.IsName n) :
    isHidden (Path.join root (Path.ofNames (names ++ [name]))) ↔ name.toList.head? = some '.' := by
  rw [isHidden, Path.baseName, Path.lastName_join root h, decide_eq_true_eq, String.ofList_toList]

end Filter

/-! ## The files -/

namespace Disk

variable {d : Disk} {f : Filter} {root : String}

/-- **A file below a root is kept** if the search finds its names. -/
lemma keeps_iff_finds (hproper : d.top.proper) {names : List String} (h : d.FileBelow root names) :
    f.keeps (Path.join root (Path.ofNames names)) ↔ d.Finds f root names := by
  have hnames := isName_of_fileBelow hproper h
  obtain ⟨init, name, rfl⟩ := (List.eq_nil_or_concat' names).resolve_left h.1
  have hhidden := Filter.isHidden_join root hnames
  rw [Filter.keeps, Bool.and_eq_true, Bool.and_eq_true, Bool.not_eq_true', Bool.not_eq_true',
    Filter.admits_iff, Filter.not_excludes_iff, ← Bool.not_eq_true, hhidden]
  constructor
  · rintro ⟨⟨hshown, hadmitted⟩, hclean⟩
    refine ⟨h, fun last hlast => ?_, hadmitted, hclean⟩
    rw [List.getLast?_concat, Option.some.injEq] at hlast
    rwa [← hlast]
  · rintro ⟨-, hshown, hadmitted, hclean⟩
    exact ⟨⟨hshown name List.getLast?_concat, hadmitted⟩, hclean⟩

/-- The files that are discovered are those that the search finds. -/
lemma mem_discover_filesBelow (hproper : d.top.proper) (f : Filter) (root : String)
    {x : SourceFile} :
    x ∈ discover f (d.filesBelow root) ↔ ∃ names, d.Finds f root names ∧ x = sourceAt root names := by
  rw [mem_discover, mem_filesBelow hproper]
  constructor
  · rintro ⟨⟨names, hbelow, hpath⟩, hkept, hlanguage⟩
    rw [hpath, keeps_iff_finds hproper hbelow] at hkept
    refine ⟨names, hkept, ?_⟩
    rw [sourceAt, ← hpath, ← hlanguage]
  · rintro ⟨names, hfinds, rfl⟩
    have hkept := (keeps_iff_finds hproper hfinds.below).mpr hfinds
    simp only [sourceAt]
    exact ⟨⟨names, hfinds.below, rfl⟩, hkept, trivial⟩

/-- Two files of one search have different paths. -/
lemma names_inj_of_finds (hproper : d.top.proper) {as bs : List String} (ha : d.Finds f root as)
    (hb : d.Finds f root bs) (h : (sourceAt root as).path = (sourceAt root bs).path) : as = bs :=
  names_inj_of_fileBelow hproper ha.below hb.below h

end Disk

/-- A list whose members come from somewhere is the image of a list. -/
lemma exists_map_eq {α β : Type} {image : β → α} {p : β → Prop} :
    ∀ {xs : List α}, (∀ x ∈ xs, ∃ y, p y ∧ x = image y) →
      ∃ ys : List β, (∀ y ∈ ys, p y) ∧ xs = ys.map image
  | [], _ => ⟨[], by simp, rfl⟩
  | x :: rest, h => by
      obtain ⟨y, hy, rfl⟩ := h x List.mem_cons_self
      obtain ⟨ys, hys, rfl⟩ := exists_map_eq fun x hx => h x (List.mem_cons_of_mem _ hx)
      exact ⟨y :: ys, List.forall_mem_cons.mpr ⟨hy, hys⟩, rfl⟩

namespace Disk

variable {d : Disk}

/-- **What is discovered below a root**: the files at the names that the search finds, each once. -/
theorem discover_filesBelow (hproper : d.top.proper) (f : Filter) (root : String) :
    ∃ found : List (List String), found.Nodup ∧ (∀ names, names ∈ found ↔ d.Finds f root names)
      ∧ discover f (d.filesBelow root) = found.map (sourceAt root) := by
  obtain ⟨found, hfound, hdiscovered⟩ :=
    exists_map_eq fun x hx => (mem_discover_filesBelow hproper f root).mp hx
  have hnodup := nodup_discover (f := f) (nodup_filesBelow hproper root)
  refine ⟨found, ?_, fun names => ⟨hfound names, fun h => ?_⟩, hdiscovered⟩
  · rw [hdiscovered] at hnodup
    exact hnodup.of_map _
  · have hmem := (mem_discover_filesBelow hproper f root).mpr ⟨names, h, rfl⟩
    rw [hdiscovered] at hmem
    obtain ⟨names', hnames', hsource⟩ := List.mem_map.mp hmem
    have hpath := congrArg SourceFile.path hsource
    rwa [← names_inj_of_finds hproper (hfound names' hnames') h hpath]

/-- **A search for files** ends, and it finds the files at the names that lead to one and pass its
filters, each once and under a path of its own.  It finds nothing if there are none. -/
theorem search_filesBelow (d : Disk) (hproper : d.top.proper) (f : Filter) (root : String) :
    d.Walks [root] (d.filesBelow root)
      ∧ (∃ found : List (List String), found.Nodup ∧ (∀ names, names ∈ found ↔ d.Finds f root names)
        ∧ (found.map fun names => Path.join root (Path.ofNames names)).Nodup
        ∧ d.search f root = if found = [] then none else some (found.map (sourceAt root)))
      ∧ (d.search f root = none ↔ ∀ names, ¬ d.Finds f root names) := by
  obtain ⟨found, hnodup, hfound, hdiscovered⟩ := discover_filesBelow hproper f root
  have hpaths : (found.map fun names => Path.join root (Path.ofNames names)).Nodup := by
    refine hnodup.map_on fun as ha bs hb h => ?_
    exact names_inj_of_finds hproper ((hfound as).mp ha) ((hfound bs).mp hb) h
  have hsearch : d.search f root = if found = [] then none else some (found.map (sourceAt root)) := by
    rw [search, hdiscovered]
    cases found with
    | nil => rfl
    | cons names rest => rfl
  refine ⟨walks_filesBelow hproper root, ⟨found, hnodup, hfound, hpaths, hsearch⟩, ?_⟩
  rw [hsearch]
  constructor
  · intro hnone names hfinds
    have hmem := (hfound names).mpr hfinds
    split at hnone
    · next hempty => simp [hempty] at hmem
    · simp at hnone
  · intro hnone
    have hempty : found = [] :=
      List.eq_nil_iff_forall_not_mem.mpr fun names hmem => hnone names ((hfound names).mp hmem)
    rw [if_pos hempty]

/-! ## A tree with everything in it -/

/-- A tree with hidden files and directories, one that cannot be listed and one that cannot be searched, a
name that is no text, and links to a file, to a directory above, to nothing and to themselves. -/
def tangle : Disk where
  top := .directory true (
    .entry (.text "src") (.directory true (
      .entry (.text "main.go") (.file [] false) <|
      .entry (.text ".git") (.directory true (.entry (.text "hook.lua") (.file [] false) .none)) <|
      .entry (.text ".env") (.file [] false) <|
      .entry (.text "shut") (.directory false (.entry (.text "in.go") (.file [] false) .none)) <|
      .entry (.text "veiled") (.directory true (
        .entry (.text "b.go") (.file [] false) <|
        .entry (.text "c.go") (.link "b.go") .none)) <|
      .entry (.raw [255]) (.directory true (.entry (.text "a.go") (.file [] false) .none)) <|
      .entry (.text "same.rs") (.link "./main.go") <|
      .entry (.text "up") (.link "..") <|
      .entry (.text "gone.go") (.link "nowhere") <|
      .entry (.text "loop.go") (.link "loop.go") .none)) .none)
  cwd := []
  home := "/"
  refuses := fun act here => if act = .search ∧ here = ["src", "veiled"] then some .denied else none

/-- The filter that the tree with everything is searched with. -/
def tangleFilter : Filter := ⟨["src/"], ["hook"]⟩

lemma filesBelow_tangle : tangle.filesBelow "src/"
    = ["src/main.go", "src/.env", "src/same.rs", "src/.git/hook.lua", "src/veiled/b.go"] := by
  decide +kernel

/-- What is kept there: neither what is hidden, nor what no link leads to. -/
lemma search_tangle : tangle.search tangleFilter "src/"
    = some [⟨"src/main.go", .go⟩, ⟨"src/same.rs", .rust⟩, ⟨"src/veiled/b.go", .go⟩] := by
  have hkept : (tangle.filesBelow "src/").filterMap tangleFilter.classify
      = [⟨"src/main.go", .go⟩, ⟨"src/same.rs", .rust⟩, ⟨"src/veiled/b.go", .go⟩] := by
    rw [filesBelow_tangle]
    decide +kernel
  have hordered : ((tangle.filesBelow "src/").filterMap tangleFilter.classify).Pairwise
      fun a b => a.path ≤ b.path := by
    rw [hkept]
    decide +kernel
  rw [search, discover_of_pairwise hordered, hkept]

/-- In the tree with everything, three files are found. -/
theorem search_filesBelow_tangle :
    tangle.top.proper
      ∧ tangle.Walks ["src/"]
        ["src/main.go", "src/.env", "src/same.rs", "src/.git/hook.lua", "src/veiled/b.go"]
      ∧ (∀ names, names ∈ [["main.go"], ["same.rs"], ["veiled", "b.go"]]
        ↔ tangle.Finds tangleFilter "src/" names)
      ∧ tangle.search tangleFilter "src/"
        = some ([["main.go"], ["same.rs"], ["veiled", "b.go"]].map (sourceAt "src/")) := by
  have hproper : tangle.top.proper := by decide
  obtain ⟨hwalks, ⟨found, -, hfound, -, hsearch⟩, -⟩ :=
    search_filesBelow tangle hproper tangleFilter "src/"
  rw [filesBelow_tangle] at hwalks
  -- the paths of what is found tell the names
  have hpaths : found.map (fun names => Path.join "src/" (Path.ofNames names))
      = [["main.go"], ["same.rs"], ["veiled", "b.go"]].map
        fun names => Path.join "src/" (Path.ofNames names) := by
    rw [search_tangle] at hsearch
    split at hsearch
    · contradiction
    · have hsources := congrArg (List.map SourceFile.path) (Option.some.inj hsearch)
      rw [List.map_map] at hsources
      exact hsources.symm.trans (by decide)
  have hback : ∀ names ∈ found,
      (Path.names (Path.join "src/" (Path.ofNames names))).tail = names := by
    intro names hmem
    have hproperNames := isName_of_fileBelow hproper ((hfound names).mp hmem).below
    rw [Path.join_eq_front "src/" (Path.ofNames_not_absolute hproperNames), Path.names_front_append,
      Path.names_ofNames hproperNames]
    rfl
  have hnames : found = [["main.go"], ["same.rs"], ["veiled", "b.go"]] := by
    have hall := congrArg (List.map fun path => (Path.names path).tail) hpaths
    rw [List.map_map] at hall
    exact ((List.map_congr_left hback).trans (List.map_id' found)).symm.trans (hall.trans (by decide))
  rw [hnames] at hfound
  exact ⟨hproper, hwalks, hfound, search_tangle.trans (by decide +kernel)⟩

end Disk

end FunctionChurn
