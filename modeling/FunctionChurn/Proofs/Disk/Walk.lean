import FunctionChurn.Proofs.Disk.Tree
import Mathlib.Logic.Function.Iterate
import Mathlib.Data.List.Nodup

/-!
# The search level by level

The search for files goes by levels and by paths: it lists directories whose paths it was given, and
puts names behind them.  What it is supposed to find is said by the tree: a file is below a root if one
gets from the root to it through directories that can be listed.  A directory whose path the system does
not take, as one with too many bytes, cannot be listed.

* `Disk.FileBelow` says that, without any search, and `Disk.Walks` is the search without a bound on the
  rounds.
* `Disk.level` are the directories that are listed in one round, `Disk.mem_level` what they are in the
  tree, and `Disk.level_eq_nil` that the rounds come to an end.
* **`Disk.walks_filesBelow`**: the bound on the rounds cuts nothing off.
* **`Disk.mem_filesBelow`**: the files that are found are those below the root.
* **`Disk.nodup_filesBelow`**: none is found twice.
-/

namespace FunctionChurn

/-! ## What a directory holds -/

/-- **Whether what stands at a path counts as a file**: a file does, and a link that leads to one. -/
def Disk.countsAsFile (d : Disk) (path : String) : Node → Bool
  | .file .. => true
  | .link _ => d.isFile path
  | .directory .. => false

namespace Entries

variable {d : Disk} {path : String}

lemma mem_files_listing {p : String} :
    ∀ es : Entries, p ∈ (es.listing d path).files
      ↔ ∃ name node, (.text name, node) ∈ es.toList ∧ p = Path.join path name
        ∧ d.countsAsFile p node
  | none => by simp [listing, toList]
  | entry (.raw bytes) node others => by
      rw [listing, mem_files_listing others]
      simp [toList]
  | entry (.text name) node others => by
      have ih := mem_files_listing (p := p) others
      simp only [toList, List.mem_cons, Prod.mk.injEq, EntryName.text.injEq, or_and_right,
        exists_or, ← ih]
      have hhere : (∃ n m, (n = name ∧ m = node) ∧ p = Path.join path n ∧ d.countsAsFile p m)
          ↔ p = Path.join path name ∧ d.countsAsFile p node := by
        constructor
        · rintro ⟨_, _, ⟨rfl, rfl⟩, h⟩
          exact h
        · exact fun h => ⟨name, node, ⟨rfl, rfl⟩, h⟩
      rw [hhere]
      cases node with
      | file content executable => simp [listing, Disk.countsAsFile]
      | directory listable es => simp [listing, Disk.countsAsFile]
      | link target =>
          simp only [listing, Disk.countsAsFile]
          by_cases hfile : d.isFile (Path.join path name)
          · rw [if_pos hfile, List.mem_cons]
            constructor
            · rintro (rfl | h)
              · exact .inl ⟨rfl, hfile⟩
              · exact .inr h
            · exact Or.imp_left And.left
          · rw [if_neg hfile]
            constructor
            · exact .inr
            · rintro (⟨rfl, h⟩ | h)
              · exact absurd h hfile
              · exact h

lemma mem_directories_listing {p : String} :
    ∀ es : Entries, p ∈ (es.listing d path).directories
      ↔ ∃ name listable inner, (.text name, .directory listable inner) ∈ es.toList
        ∧ p = Path.join path name
  | none => by simp [listing, toList]
  | entry (.raw bytes) node others => by
      rw [listing, mem_directories_listing others]
      simp [toList]
  | entry (.text name) node others => by
      have ih := mem_directories_listing (p := p) others
      simp only [toList, List.mem_cons, Prod.mk.injEq, EntryName.text.injEq, or_and_right,
        exists_or, ← ih]
      cases node with
      | file content executable => simp [listing]
      | directory listable es => simp [listing]
      | link target =>
          simp only [listing]
          split <;> simp

lemma nodup_listing : ∀ {es : Entries}, es.proper →
    (es.listing d path).files.Nodup ∧ (es.listing d path).directories.Nodup
  | none, _ => by simp [listing]
  | entry (.raw bytes) node others, h => by
      obtain ⟨-, -, -, hothers⟩ := proper_entry.mp h
      rw [listing]
      exact nodup_listing hothers
  | entry (.text name) node others, h => by
      obtain ⟨hname, hnew, -, hothers⟩ := proper_entry.mp h
      obtain ⟨hfiles, hdirectories⟩ := nodup_listing hothers
      have hproper : Path.IsName name := by simpa [EntryName.proper] using hname
      -- no other entry has the path of this one, since none has its name
      have hother : ∀ n m, (EntryName.text n, m) ∈ others.toList →
          Path.join path name ≠ Path.join path n := by
        intro n m hmem hpath
        have hn : Path.IsName n := by
          simpa [EntryName.proper] using (proper_of_mem hothers hmem).1
        rw [Path.join_eq_front path hproper.not_absolute,
          Path.join_eq_front path hn.not_absolute] at hpath
        rw [Path.front_append_inj hpath] at hnew
        exact hnew (List.mem_map_of_mem hmem)
      have hnofile : Path.join path name ∉ (others.listing d path).files := by
        rw [mem_files_listing]
        rintro ⟨n, m, hmem, hpath, -⟩
        exact hother n m hmem hpath
      have hnodirectory : Path.join path name ∉ (others.listing d path).directories := by
        rw [mem_directories_listing]
        rintro ⟨n, _, _, hmem, hpath⟩
        exact hother n _ hmem hpath
      cases node with
      | file content executable =>
          exact ⟨List.nodup_cons.mpr ⟨hnofile, hfiles⟩, hdirectories⟩
      | directory listable es =>
          exact ⟨hfiles, List.nodup_cons.mpr ⟨hnodirectory, hdirectories⟩⟩
      | link target =>
          simp only [listing]
          split
          · exact ⟨List.nodup_cons.mpr ⟨hnofile, hfiles⟩, hdirectories⟩
          · exact ⟨hfiles, hdirectories⟩

end Entries

/-! ## What is below a root -/

/-- **Whether names lead to a directory that can be listed**: the tree lets it, and so does the system. -/
def Disk.Lists (d : Disk) (root : String) (node : Node) (names : List String) : Prop :=
  (∃ es, node.at? names = some (.directory true es))
    ∧ (d.find (names.foldl Path.join root)).isOk = true

/-- **Whether one gets down to names through directories that can be listed**, without a link. -/
def Disk.Open (d : Disk) (root : String) (node : Node) (names : List String) : Prop :=
  ∀ front, front <+: names → front ≠ names → d.Lists root node front

/-- **Whether names lead to the root itself or to a directory**, which is where something can be listed. -/
def Node.Stands (node : Node) (names : List String) : Prop :=
  names = [] ∨ ∃ listable es, node.at? names = some (.directory listable es)

/-- **A file below a root**, by its names from there on. -/
def Disk.FileBelow (d : Disk) (root : String) (names : List String) : Prop :=
  names ≠ [] ∧ ∃ here node, d.find root = .ok (here, node) ∧ d.Open root node names ∧
    ∃ found, node.at? names = some found ∧
      d.countsAsFile (Path.join root (Path.ofNames names)) found

section Open

variable {d : Disk} {root : String} {node : Node} {names : List String} {name : String}

lemma Disk.open_nil : d.Open root node [] :=
  fun _ hfront hne => absurd (List.prefix_nil.mp hfront) hne

/-- One name more has to be in a directory that can be listed. -/
lemma Disk.open_concat :
    d.Open root node (names ++ [name]) ↔ d.Open root node names ∧ d.Lists root node names := by
  constructor
  · intro h
    refine ⟨fun front hfront hne => ?_, h names (List.prefix_append names [name]) (by simp)⟩
    have hlonger := hfront.trans (List.prefix_append names [name])
    refine h front hlonger fun heq => hne (hfront.eq_of_length_le ?_)
    rw [heq, List.length_append]
    exact Nat.le_add_right _ _
  · rintro ⟨hopen, hlists⟩ front hfront hne
    rcases List.prefix_concat_iff.mp hfront with heq | hshorter
    · exact absurd heq hne
    · by_cases heq : front = names
      · rwa [heq]
      · exact hopen front hshorter heq

/-- Open names are those of a directory that can be listed, and one name more. -/
lemma Disk.Open.exists_concat {k : Nat} (hopen : d.Open root node names) (hlength : names.length = k + 1) :
    ∃ init name, names = init ++ [name] ∧ init.length = k ∧ d.Open root node init
      ∧ d.Lists root node init := by
  rcases List.eq_nil_or_concat' names with rfl | ⟨init, name, rfl⟩
  · simp at hlength
  · obtain ⟨hinit, hlists⟩ := Disk.open_concat.mp hopen
    rw [List.length_append, List.length_singleton, Nat.add_right_cancel_iff] at hlength
    exact ⟨init, name, rfl, hlength, hinit, hlists⟩

/-- What can be listed stands there. -/
lemma Disk.Lists.stands (h : d.Lists root node names) : node.Stands names := by
  obtain ⟨⟨es, hdir⟩, -⟩ := h
  exact .inr ⟨true, es, hdir⟩

end Open

namespace Node

variable {node : Node} {names : List String} {name : String}

/-- What stands under one name more is an entry of the directory. -/
lemma at?_concat {listable : Bool} {es : Entries}
    (hdir : node.at? names = some (.directory listable es)) :
    node.at? (names ++ [name]) = es.find? name := by
  have hchild : (directory listable es).child? name = es.find? name := rfl
  rw [at?_append, hdir, Option.bind_some, at?, hchild]
  cases es.find? name with
  | none => rfl
  | some next => rfl

end Node

/-! ## One round -/

namespace Disk

/-- What the directories of a round hold in directories. -/
def next (d : Disk) (level : List String) : List String :=
  level.flatMap fun path => (d.list path).directories

/-- What the directories of a round hold in files. -/
def gathered (d : Disk) (level : List String) : List String :=
  level.flatMap fun path => (d.list path).files

/-- **The directories that are listed in a round.** -/
def level (d : Disk) (root : String) (k : Nat) : List String := d.next^[k] [root]

/-- **The search without a bound**: rounds, until there are no more directories. -/
inductive Walks (d : Disk) : List String → List String → Prop where
  | done : Walks d [] []
  | round {dirs files : List String} :
      dirs ≠ [] → Walks d (d.next dirs) files → Walks d dirs (d.gathered dirs ++ files)

variable {d : Disk} {root : String}

lemma next_nil : d.next [] = [] := rfl

lemma walk_cons (n : Nat) (dir : String) (dirs : List String) :
    d.walk (n + 1) (dir :: dirs) = d.gathered (dir :: dirs) ++ d.walk n (d.next (dir :: dirs)) := by
  rw [walk, gathered, next, List.flatMap_map, List.flatMap_map]
  exact List.cons_ne_nil _ _

/-- With rounds enough, the search ends by itself. -/
lemma walks_walk : ∀ (n : Nat) (dirs : List String), d.next^[n] dirs = [] → d.Walks dirs (d.walk n dirs)
  | 0, dirs, h => by
      obtain rfl : dirs = [] := h
      exact .done
  | n + 1, [], _ => .done
  | n + 1, dir :: dirs, h => by
      rw [walk_cons]
      exact .round (List.cons_ne_nil _ _) (walks_walk n _ h)

/-- The search puts its rounds end to end. -/
lemma walk_eq_flatMap : ∀ (n : Nat) (dirs : List String),
    d.walk n dirs = (List.range n).flatMap fun k => d.gathered (d.next^[k] dirs)
  | 0, dirs => by cases dirs <;> rfl
  | n + 1, [] => by
      have hnone : ∀ k : Nat, d.next^[k] [] = [] := fun k => Function.iterate_fixed next_nil k
      simp [walk, hnone, gathered]
  | n + 1, dir :: dirs => by
      rw [walk_cons, walk_eq_flatMap n, List.range_succ_eq_map, List.flatMap_cons, List.flatMap_map]
      rfl

lemma level_succ (k : Nat) : d.level root (k + 1) = d.next (d.level root k) :=
  Function.iterate_succ_apply' _ _ _

/-! ## What is listed -/

/-- What a node holds if it is what stands at a path. -/
def held (d : Disk) (path : String) : Option Node → Listing
  | some (.directory true es) => es.listing d path
  | _ => {}

section Listed

variable {here names : List String} {node : Node}

/-- What the directory at some names holds, if it can be listed. -/
lemma list_foldl (hproper : d.top.proper) (hroot : d.find root = .ok (here, node))
    (h : node.Stands names) (hfound : (d.find (names.foldl Path.join root)).isOk = true) :
    d.list (names.foldl Path.join root)
      = d.held (names.foldl Path.join root) (node.at? names) := by
  by_cases hempty : names = []
  · subst hempty
    rw [List.foldl_nil, list, hroot, Node.at?]
    cases node with
    | directory listable es => cases listable <;> rfl
    | file => rfl
    | link => rfl
  · obtain ⟨listable, es, hdir⟩ := h.resolve_left hempty
    have hnames := Node.isName_of_at? (Node.proper_of_find? hproper hroot) hdir
    rw [Path.foldl_join root hempty hnames] at hfound ⊢
    cases hfind : d.find (Path.join root (Path.ofNames names)) with
    | error o => simp [hfind, Except.isOk, Except.toBool] at hfound
    | ok x =>
        obtain rfl := find_join hproper hroot hdir (fun _ => by simp) hempty hfind
        rw [list, hfind, hdir]
        cases listable <;> rfl

/-- **What a directory holds**, whether or not it can be listed. -/
lemma list_foldl_cases (hproper : d.top.proper) (hroot : d.find root = .ok (here, node))
    (h : node.Stands names) :
    (∃ es, d.Lists root node names ∧ node.at? names = some (.directory true es)
        ∧ d.list (names.foldl Path.join root) = es.listing d (names.foldl Path.join root))
      ∨ (¬ d.Lists root node names ∧ d.list (names.foldl Path.join root) = {}) := by
  by_cases hfound : (d.find (names.foldl Path.join root)).isOk = true
  · have hlist := list_foldl hproper hroot h hfound
    by_cases hdir : ∃ es, node.at? names = some (.directory true es)
    · obtain ⟨es, hes⟩ := hdir
      refine .inl ⟨es, ⟨⟨es, hes⟩, hfound⟩, hes, ?_⟩
      rw [hlist, hes, held]
    · refine .inr ⟨fun hlists => hdir hlists.1, ?_⟩
      rw [hlist]
      unfold held
      split
      · next es hes => exact absurd ⟨es, hes⟩ hdir
      · rfl
  · refine .inr ⟨fun hlists => hfound hlists.2, ?_⟩
    rw [list]
    cases hfind : d.find (names.foldl Path.join root) with
    | error o => rfl
    | ok x => simp [hfind, Except.isOk, Except.toBool] at hfound

lemma mem_list_files (hproper : d.top.proper) (hroot : d.find root = .ok (here, node))
    (h : node.Stands names) {p : String} :
    p ∈ (d.list (names.foldl Path.join root)).files
      ↔ ∃ name found, d.Lists root node names ∧ node.at? (names ++ [name]) = some found
        ∧ p = (names ++ [name]).foldl Path.join root ∧ d.countsAsFile p found := by
  have hnode := Node.proper_of_find? hproper hroot
  rcases list_foldl_cases hproper hroot h with ⟨es, hlists, hdir, hlist⟩ | ⟨hlists, hlist⟩ <;> rw [hlist]
  · have hes : es.proper := Node.proper_of_at? hnode hdir
    rw [Entries.mem_files_listing]
    simp only [List.foldl_append, List.foldl_cons, List.foldl_nil, Node.at?_concat hdir,
      Entries.find?_eq_some_iff hes, hlists, true_and]
  · refine iff_of_false List.not_mem_nil ?_
    rintro ⟨_, _, hlisted, -⟩
    exact hlists hlisted

lemma mem_list_directories (hproper : d.top.proper) (hroot : d.find root = .ok (here, node))
    (h : node.Stands names) {p : String} :
    p ∈ (d.list (names.foldl Path.join root)).directories
      ↔ ∃ name listable inner, d.Lists root node names
        ∧ node.at? (names ++ [name]) = some (.directory listable inner)
        ∧ p = (names ++ [name]).foldl Path.join root := by
  have hnode := Node.proper_of_find? hproper hroot
  rcases list_foldl_cases hproper hroot h with ⟨es, hlists, hdir, hlist⟩ | ⟨hlists, hlist⟩ <;> rw [hlist]
  · have hes : es.proper := Node.proper_of_at? hnode hdir
    rw [Entries.mem_directories_listing]
    simp only [List.foldl_append, List.foldl_cons, List.foldl_nil, Node.at?_concat hdir,
      Entries.find?_eq_some_iff hes, hlists, true_and]
  · refine iff_of_false List.not_mem_nil ?_
    rintro ⟨_, _, _, hlisted, -⟩
    exact hlists hlisted

lemma nodup_list (hproper : d.top.proper) (path : String) :
    (d.list path).files.Nodup ∧ (d.list path).directories.Nodup := by
  rw [list]
  split
  · next here es hfind =>
      exact Entries.nodup_listing (Node.proper_of_find? hproper hfind)
  · exact ⟨List.nodup_nil, List.nodup_nil⟩

end Listed

/-! ## All rounds -/

section Rounds

variable {here : List String} {node : Node}

/-- **The directories of a round**: those that many names below the root, if one gets there through
directories that can be listed. -/
theorem mem_level (hproper : d.top.proper) (hroot : d.find root = .ok (here, node)) :
    ∀ {k : Nat} {p : String}, p ∈ d.level root k
      ↔ ∃ names, names.length = k ∧ p = names.foldl Path.join root ∧ d.Open root node names
        ∧ node.Stands names
  | 0, p => by
      rw [level, Function.iterate_zero, id, List.mem_singleton]
      constructor
      · rintro rfl
        exact ⟨[], rfl, rfl, open_nil, .inl rfl⟩
      · rintro ⟨names, hlength, rfl, -, -⟩
        rw [List.length_eq_zero_iff.mp hlength, List.foldl_nil]
  | k + 1, p => by
      rw [level_succ, next, List.mem_flatMap]
      constructor
      · rintro ⟨dir, hdir, hp⟩
        obtain ⟨names, rfl, rfl, hopen, hnames⟩ := (mem_level hproper hroot).mp hdir
        obtain ⟨name, listable, inner, hlists, hinner, rfl⟩ :=
          (mem_list_directories hproper hroot hnames).mp hp
        exact ⟨names ++ [name], by simp, rfl, open_concat.mpr ⟨hopen, hlists⟩,
          .inr ⟨listable, inner, hinner⟩⟩
      · rintro ⟨names, hlength, rfl, hopen, hnames⟩
        obtain ⟨init, name, rfl, hinitLength, hinit, hlists⟩ := hopen.exists_concat hlength
        obtain ⟨listable, inner, hinner⟩ := hnames.resolve_left (by simp)
        refine ⟨_, (mem_level hproper hroot).mpr ⟨init, hinitLength, rfl, hinit, hlists.stands⟩, ?_⟩
        exact (mem_list_directories hproper hroot hlists.stands).mpr
          ⟨name, listable, inner, hlists, hinner, rfl⟩

/-- **The files of a round**: those one name below its directories. -/
theorem mem_gathered_level (hproper : d.top.proper) (hroot : d.find root = .ok (here, node))
    {k : Nat} {p : String} :
    p ∈ d.gathered (d.level root k)
      ↔ ∃ names, names.length = k + 1 ∧ d.FileBelow root names
        ∧ p = Path.join root (Path.ofNames names) := by
  have hnode := Node.proper_of_find? hproper hroot
  rw [gathered, List.mem_flatMap]
  constructor
  · rintro ⟨dir, hdir, hp⟩
    obtain ⟨names, rfl, rfl, hopen, hnames⟩ := (mem_level hproper hroot).mp hdir
    obtain ⟨name, found, hlists, hfound, rfl, hfile⟩ :=
      (mem_list_files hproper hroot hnames).mp hp
    have hpath := Path.foldl_join root (by simp) (Node.isName_of_at? hnode hfound)
    rw [hpath] at hfile ⊢
    exact ⟨names ++ [name], by simp, ⟨by simp, here, node, hroot,
      open_concat.mpr ⟨hopen, hlists⟩, found, hfound, hfile⟩, rfl⟩
  · rintro ⟨names, hlength, ⟨-, here', node', hroot', hopen, found, hfound, hfile⟩, rfl⟩
    obtain ⟨rfl, rfl⟩ : here = here' ∧ node = node' := by simpa [hroot] using hroot'
    obtain ⟨init, name, rfl, hinitLength, hinit, hlists⟩ := hopen.exists_concat hlength
    have hpath := Path.foldl_join root (by simp) (Node.isName_of_at? hnode hfound)
    refine ⟨_, (mem_level hproper hroot).mpr ⟨init, hinitLength, rfl, hinit, hlists.stands⟩, ?_⟩
    rw [← hpath] at hfile ⊢
    exact (mem_list_files hproper hroot hlists.stands).mpr ⟨name, found, hlists, hfound, rfl, hfile⟩

/-- A file below a root has no more names than there are directories in each other. -/
lemma length_le_of_fileBelow (hproper : d.top.proper) {names : List String}
    (h : d.FileBelow root names) : names.length ≤ d.top.depth := by
  obtain ⟨-, here, node, hroot, -, found, hfound, -⟩ := h
  obtain ⟨-, _, _, _, hhere⟩ := find_eq_ok_iff.mp hroot
  have hdepth := Node.length_add_depth_le hproper hhere
  have hbelow := Node.length_add_depth_le (Node.proper_of_at? hproper hhere) hfound
  omega

lemma next_of_find_error {o : Obstacle} (hroot : d.find root = .error o) : d.next [root] = [] := by
  simp [next, list, hroot]

/-- **The rounds come to an end**: every directory is less deep than the one it is in. -/
theorem level_eq_nil (hproper : d.top.proper) {k : Nat} (hk : d.top.depth < k) :
    d.level root k = [] := by
  rw [List.eq_nil_iff_forall_not_mem]
  intro p hp
  cases hroot : d.find root with
  | error o =>
      obtain ⟨j, rfl⟩ : ∃ j, k = j + 1 := ⟨k - 1, by omega⟩
      rw [level, Function.iterate_succ_apply, next_of_find_error hroot,
        Function.iterate_fixed next_nil] at hp
      simp at hp
  | ok place =>
      obtain ⟨here, node⟩ := place
      obtain ⟨names, rfl, -, -, hnames⟩ := (mem_level hproper hroot).mp hp
      obtain ⟨-, _, _, _, hhere⟩ := find_eq_ok_iff.mp hroot
      have hdepth := Node.length_add_depth_le hproper hhere
      rcases hnames with rfl | ⟨listable, es, hdir⟩
      · simp at hk
      · have hbelow := Node.length_add_depth_le (Node.proper_of_at? hproper hhere) hdir
        omega

/-- The files of a round are below the root, whether or not the root is found. -/
lemma mem_gathered (hproper : d.top.proper) {k : Nat} {p : String} :
    p ∈ d.gathered (d.level root k)
      ↔ ∃ names, names.length = k + 1 ∧ d.FileBelow root names
        ∧ p = Path.join root (Path.ofNames names) := by
  cases hroot : d.find root with
  | ok place => exact mem_gathered_level hproper hroot
  | error o =>
      have hnone : d.gathered (d.level root k) = [] := by
        cases k with
        | zero => simp [level, gathered, list, hroot]
        | succ k =>
            rw [level, Function.iterate_succ_apply, next_of_find_error hroot,
              Function.iterate_fixed next_nil]
            rfl
      rw [hnone]
      constructor
      · intro h
        simp at h
      · rintro ⟨names, -, ⟨-, here, node, hfind, -⟩, -⟩
        simp [hroot] at hfind

/-- **The bound on the rounds cuts nothing off**: the search without a bound ends, with the same
files. -/
theorem walks_filesBelow (hproper : d.top.proper) (root : String) :
    d.Walks [root] (d.filesBelow root) := by
  -- one round more than the bound finds no more directories, and it does not find files either
  have hlast : d.gathered (d.level root d.top.depth) = [] := by
    rw [List.eq_nil_iff_forall_not_mem]
    intro p hp
    obtain ⟨names, hlength, hbelow, -⟩ := (mem_gathered hproper).mp hp
    have hle := length_le_of_fileBelow hproper hbelow
    omega
  have hmore : d.walk (d.top.depth + 1) [root] = d.filesBelow root := by
    rw [walk_eq_flatMap, List.range_succ, List.flatMap_append, List.flatMap_singleton, filesBelow,
      walk_eq_flatMap]
    rw [level] at hlast
    rw [hlast, List.append_nil]
  rw [← hmore]
  exact walks_walk _ _ (level_eq_nil hproper (Nat.lt_succ_self _))

/-- **The files that are found** are those below the root. -/
theorem mem_filesBelow (hproper : d.top.proper) {p : String} :
    p ∈ d.filesBelow root
      ↔ ∃ names, d.FileBelow root names ∧ p = Path.join root (Path.ofNames names) := by
  rw [filesBelow, walk_eq_flatMap, List.mem_flatMap]
  constructor
  · rintro ⟨k, -, hp⟩
    obtain ⟨names, -, hbelow, rfl⟩ := (mem_gathered hproper).mp hp
    exact ⟨names, hbelow, rfl⟩
  · rintro ⟨names, hbelow, rfl⟩
    have hle := length_le_of_fileBelow hproper hbelow
    have hpos : 0 < names.length := List.length_pos_iff.mpr hbelow.1
    have hround : names.length = names.length - 1 + 1 := by omega
    refine ⟨names.length - 1, List.mem_range.mpr (by omega), ?_⟩
    exact (mem_gathered hproper).mpr ⟨names, hround, hbelow, rfl⟩

end Rounds

/-! ## No file twice -/

lemma isName_of_fileBelow (hproper : d.top.proper) {names : List String}
    (h : d.FileBelow root names) : ∀ n ∈ names, Path.IsName n := by
  obtain ⟨-, here, node, hroot, -, found, hfound, -⟩ := h
  exact Node.isName_of_at? (Node.proper_of_find? hproper hroot) hfound

/-- The path of a file tells its names. -/
lemma names_inj_of_fileBelow (hproper : d.top.proper) {as bs : List String}
    (ha : d.FileBelow root as) (hb : d.FileBelow root bs)
    (h : Path.join root (Path.ofNames as) = Path.join root (Path.ofNames bs)) : as = bs :=
  Path.join_ofNames_inj (isName_of_fileBelow hproper ha) (isName_of_fileBelow hproper hb) h

/-- What a directory of a round holds has the path of the directory and a name behind it. -/
lemma path_of_mem_list (hproper : d.top.proper) {here : List String} {node : Node}
    (hroot : d.find root = .ok (here, node)) {k : Nat} {dir p : String} (hdir : dir ∈ d.level root k)
    (hp : p ∈ (d.list dir).files ∨ p ∈ (d.list dir).directories) :
    ∃ names name, dir = names.foldl Path.join root ∧ (∀ n ∈ names ++ [name], Path.IsName n)
      ∧ p = Path.join root (Path.ofNames (names ++ [name])) := by
  have hnode := Node.proper_of_find? hproper hroot
  obtain ⟨names, -, rfl, -, hnames⟩ := (mem_level hproper hroot).mp hdir
  have hentry : ∃ name found, node.at? (names ++ [name]) = some found
      ∧ p = (names ++ [name]).foldl Path.join root := by
    rcases hp with hp | hp
    · obtain ⟨name, found, _, hfound, rfl, _⟩ := (mem_list_files hproper hroot hnames).mp hp
      exact ⟨name, found, hfound, rfl⟩
    · obtain ⟨name, _, _, _, hfound, rfl⟩ := (mem_list_directories hproper hroot hnames).mp hp
      exact ⟨name, _, hfound, rfl⟩
  obtain ⟨name, found, hfound, rfl⟩ := hentry
  have hproperNames := Node.isName_of_at? hnode hfound
  exact ⟨names, name, rfl, hproperNames, Path.foldl_join root (by simp) hproperNames⟩

/-- Two directories of a round have nothing in common. -/
lemma eq_of_mem_list (hproper : d.top.proper) {here : List String} {node : Node}
    (hroot : d.find root = .ok (here, node)) {k : Nat} {dir dir' p : String}
    (hdir : dir ∈ d.level root k) (hdir' : dir' ∈ d.level root k)
    (hp : p ∈ (d.list dir).files ∨ p ∈ (d.list dir).directories)
    (hp' : p ∈ (d.list dir').files ∨ p ∈ (d.list dir').directories) : dir = dir' := by
  obtain ⟨names, name, rfl, hnames, rfl⟩ := path_of_mem_list hproper hroot hdir hp
  obtain ⟨names', name', rfl, hnames', heq⟩ := path_of_mem_list hproper hroot hdir' hp'
  have hall := Path.join_ofNames_inj hnames hnames' heq
  rw [(List.append_inj' hall rfl).1]

lemma nodup_level (hproper : d.top.proper) {here : List String} {node : Node}
    (hroot : d.find root = .ok (here, node)) : ∀ k : Nat, (d.level root k).Nodup
  | 0 => List.nodup_singleton root
  | k + 1 => by
      rw [level_succ, next]
      refine List.nodup_flatMap.mpr ⟨fun dir _ => (nodup_list hproper dir).2, ?_⟩
      refine (nodup_level hproper hroot k).imp_of_mem fun hdir hdir' hne p hp hp' => hne ?_
      exact eq_of_mem_list hproper hroot hdir hdir' (.inr hp) (.inr hp')

lemma nodup_gathered (hproper : d.top.proper) (k : Nat) : (d.gathered (d.level root k)).Nodup := by
  cases hroot : d.find root with
  | error o =>
      have hnone : d.gathered (d.level root k) = [] := by
        rw [List.eq_nil_iff_forall_not_mem]
        intro p hp
        obtain ⟨_, -, ⟨-, _, _, hfind, -⟩, -⟩ := (mem_gathered hproper).mp hp
        simp [hroot] at hfind
      rw [hnone]
      exact List.nodup_nil
  | ok place =>
      rw [gathered]
      refine List.nodup_flatMap.mpr ⟨fun dir _ => (nodup_list hproper dir).1, ?_⟩
      refine (nodup_level hproper hroot k).imp_of_mem fun hdir hdir' hne p hp hp' => hne ?_
      exact eq_of_mem_list hproper hroot hdir hdir' (.inl hp) (.inl hp')

/-- **No file is found twice.** -/
theorem nodup_filesBelow (hproper : d.top.proper) (root : String) : (d.filesBelow root).Nodup := by
  rw [filesBelow, walk_eq_flatMap]
  refine List.nodup_flatMap.mpr ⟨fun k _ => nodup_gathered hproper k, ?_⟩
  refine List.nodup_range.imp fun {j k} hne p hj hk => hne ?_
  obtain ⟨as, has, ha, rfl⟩ := (mem_gathered hproper).mp hj
  obtain ⟨bs, hbs, hb, hpath⟩ := (mem_gathered hproper).mp hk
  rw [names_inj_of_fileBelow hproper ha hb hpath, hbs] at has
  omega

end Disk

end FunctionChurn
