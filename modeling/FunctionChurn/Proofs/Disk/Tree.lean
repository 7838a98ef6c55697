import FunctionChurn.Discovery
import FunctionChurn.Proofs.Disk.Resolve

/-!
# Trees with proper names

In a file tree every entry of a directory has a name of its own, and that name can stand in a path.
`Node.proper` is the test for that, and what holds of the trees that pass it is collected here.

* `Entries.toList` are the entries of a directory as a list; `Entries.find?_eq_some_iff` is looking up a
  name in it.
* `Node.at?_append` goes down a tree in two steps, `Node.isName_of_at?` says that one goes by proper
  names, and `Node.length_add_depth_le` that every step down makes the tree less deep.
* **`Disk.find_join`**: what is found behind a directory, if anything is, is what stands below it in the
  tree.
* `Node.proper_put`: writing into a tree keeps its names proper.
-/

namespace FunctionChurn

/-! ## Entries as a list -/

namespace Entries

/-- The entries of a directory, in their order. -/
def toList : Entries → List (EntryName × Node)
  | none => []
  | entry name node others => (name, node) :: others.toList

def names (es : Entries) : List EntryName := es.toList.map Prod.fst

end Entries

/-- Whether a name can stand in a path, if it is text. -/
def EntryName.proper : EntryName → Bool
  | .text name => Path.IsName name
  | .raw _ => true

mutual

/-- **Whether the names in a tree are proper**: they can stand in a path, and the entries of a
directory have different names. -/
def Node.proper : Node → Bool
  | .directory _ es => es.proper
  | _ => true

/-- Whether the names among some entries and below them are proper. -/
def Entries.proper : Entries → Bool
  | .none => true
  | .entry name node others =>
      name.proper && !others.names.contains name && node.proper && others.proper

end

@[simp] lemma Node.proper_directory (listable : Bool) (es : Entries) :
    (Node.directory listable es).proper = es.proper := rfl

namespace Entries

lemma proper_entry {name : EntryName} {node : Node} {others : Entries} :
    (entry name node others).proper
      ↔ name.proper ∧ name ∉ others.names ∧ node.proper ∧ others.proper := by
  simp [proper, and_assoc]

/-- **Looking up a name** in entries with different names. -/
theorem find?_eq_some_iff {name : String} {node : Node} :
    ∀ {es : Entries}, es.proper → (es.find? name = some node ↔ (.text name, node) ∈ es.toList)
  | none, _ => by simp [find?, toList]
  | entry n m others, h => by
      obtain ⟨-, hnew, -, hothers⟩ := proper_entry.mp h
      rw [find?, toList, List.mem_cons, ← find?_eq_some_iff hothers]
      split
      · next hname =>
          subst hname
          constructor
          · rintro ⟨⟩
            exact .inl rfl
          · rintro (heq | hmem)
            · rw [(Prod.mk.inj heq).2]
            · rw [find?_eq_some_iff hothers] at hmem
              exact absurd (List.mem_map_of_mem hmem) hnew
      · next hname =>
          constructor
          · exact .inr
          · rintro (heq | hmem)
            · exact absurd (Prod.mk.inj heq).1.symm hname
            · exact hmem

/-- An entry of proper entries has a proper name and is proper itself. -/
lemma proper_of_mem {name : EntryName} {node : Node} :
    ∀ {es : Entries}, es.proper → (name, node) ∈ es.toList → name.proper ∧ node.proper
  | none, _, hmem => by simp [toList] at hmem
  | entry n m others, h, hmem => by
      obtain ⟨hname, -, hnode, hothers⟩ := proper_entry.mp h
      rcases List.mem_cons.mp hmem with heq | hmem
      · obtain ⟨rfl, rfl⟩ := Prod.mk.inj heq
        exact ⟨hname, hnode⟩
      · exact proper_of_mem hothers hmem

lemma depth_le_of_mem {name : EntryName} {node : Node} :
    ∀ {es : Entries}, (name, node) ∈ es.toList → node.depth ≤ es.depth
  | none, hmem => by simp [toList] at hmem
  | entry n m others, hmem => by
      rw [depth]
      rcases List.mem_cons.mp hmem with heq | hmem
      · rw [(Prod.mk.inj heq).2]
        exact Nat.le_max_left _ _
      · exact (depth_le_of_mem hmem).trans (Nat.le_max_right _ _)

end Entries

/-! ## Going down a tree -/

namespace Node

/-- **Down a tree in two steps.** -/
theorem at?_append :
    ∀ (node : Node) (as bs : List String), node.at? (as ++ bs) = (node.at? as).bind (·.at? bs)
  | _, [], _ => rfl
  | node, a :: as, bs => by
      rw [List.cons_append, at?, at?]
      cases node.child? a with
      | none => rfl
      | some next => exact at?_append next as bs

lemma at?_cons_eq_some {node found : Node} {name : String} {rest : List String}
    (h : node.at? (name :: rest) = some found) :
    ∃ next, node.child? name = some next ∧ next.at? rest = some found := by
  rw [at?] at h
  cases hchild : node.child? name with
  | none => simp [hchild] at h
  | some next => exact ⟨next, rfl, by simpa [hchild] using h⟩

/-- Only a directory has entries. -/
lemma directory_of_child? {node next : Node} {name : String} (h : node.child? name = some next) :
    ∃ listable es, node = .directory listable es ∧ es.find? name = some next := by
  cases node with
  | directory listable es => exact ⟨listable, es, rfl, h⟩
  | file => simp [child?, entries, Entries.find?] at h
  | link => simp [child?, entries, Entries.find?] at h

/-- The entry of a proper tree has a proper name, is proper itself, and less deep. -/
lemma proper_of_child? {node next : Node} {name : String} (hproper : node.proper)
    (h : node.child? name = some next) :
    Path.IsName name ∧ next.proper ∧ next.depth + 1 ≤ node.depth := by
  obtain ⟨listable, es, rfl, hfind⟩ := directory_of_child? h
  have hes : es.proper := hproper
  have hmem := (Entries.find?_eq_some_iff hes).mp hfind
  obtain ⟨hname, hnext⟩ := Entries.proper_of_mem hes hmem
  refine ⟨by simpa [EntryName.proper] using hname, hnext, ?_⟩
  rw [depth]
  exact Nat.succ_le_succ (Entries.depth_le_of_mem hmem)

lemma proper_of_at? : ∀ {node found : Node} {names : List String}, node.proper →
    node.at? names = some found → found.proper
  | node, found, [], hproper, h => by
      rw [at?, Option.some.injEq] at h
      rwa [← h]
  | node, found, name :: rest, hproper, h => by
      obtain ⟨next, hchild, hrest⟩ := at?_cons_eq_some h
      exact proper_of_at? (proper_of_child? hproper hchild).2.1 hrest

lemma proper_of_find? {d : Disk} {path : String} {here : List String} {node : Node}
    (hproper : d.top.proper) (h : d.find path = .ok (here, node)) : node.proper := by
  obtain ⟨-, _, _, _, hhere⟩ := Disk.find_eq_ok_iff.mp h
  exact proper_of_at? hproper hhere

/-- **One goes down a proper tree by proper names.** -/
theorem isName_of_at? : ∀ {node found : Node} {names : List String}, node.proper →
    node.at? names = some found → ∀ n ∈ names, Path.IsName n
  | _, _, [], _, _ => by simp
  | node, found, name :: rest, hproper, h => by
      obtain ⟨next, hchild, hrest⟩ := at?_cons_eq_some h
      obtain ⟨hname, hnext, -⟩ := proper_of_child? hproper hchild
      exact List.forall_mem_cons.mpr ⟨hname, isName_of_at? hnext hrest⟩

/-- **Every step down makes a tree less deep.** -/
theorem length_add_depth_le : ∀ {node found : Node} {names : List String}, node.proper →
    node.at? names = some found → names.length + found.depth ≤ node.depth
  | node, found, [], _, h => by
      rw [at?, Option.some.injEq] at h
      simp [h]
  | node, found, name :: rest, hproper, h => by
      obtain ⟨next, hchild, hrest⟩ := at?_cons_eq_some h
      obtain ⟨-, hnext, hdepth⟩ := proper_of_child? hproper hchild
      have ih := length_add_depth_le hnext hrest
      rw [List.length_cons]
      omega

/-- **Down a tree no link is followed**, unless it is the last. -/
theorem leads_of_at? {top : Node} :
    ∀ {names here : List String} {node found : Node}, node.proper → top.at? here = some node →
      node.at? names = some found → (∀ target, found ≠ .link target) →
      top.LeadsFreely 0 here names (here ++ names)
  | [], here, _, _, _, _, _, _ => by
      rw [List.append_nil]
      exact .done here
  | name :: rest, here, node, found, hproper, hhere, h, hlink => by
      obtain ⟨next, hchild, hrest⟩ := at?_cons_eq_some h
      obtain ⟨hname, hnext, -⟩ := proper_of_child? hproper hchild
      obtain ⟨listable, es, rfl, -⟩ := directory_of_child? hchild
      have hentry : top.at? (here ++ [name]) = some next := by
        rw [at?_append, hhere, Option.bind_some, at?, hchild]
        rfl
      -- a link on the way would have entries, and the last node is none
      have hnolink : ∀ target, next ≠ .link target := by
        rintro target rfl
        cases rest with
        | nil =>
            rw [at?, Option.some.injEq] at hrest
            exact hlink target hrest.symm
        | cons a rest =>
            obtain ⟨_, hlinkchild, -⟩ := at?_cons_eq_some hrest
            obtain ⟨_, _, hdir, -⟩ := directory_of_child? hlinkchild
            cases hdir
      have hone : top.LeadsFreely 0 here [name] (here ++ [name]) :=
        .ofName hname ⟨listable, es, hhere⟩ rfl hentry hnolink
      have hmore := leads_of_at? hnext hentry hrest hlink
      rw [List.append_assoc, List.singleton_append] at hmore
      simpa using hone.append hmore

end Node

/-! ## What is found behind a directory -/

/-- **What is found behind a directory is what stands below it in the tree**, if that is no link.  The
system may refuse to find it. -/
theorem Disk.find_join {d : Disk} {root : String} {here names : List String} {node found : Node}
    (hproper : d.top.proper) (hroot : d.find root = .ok (here, node))
    (h : node.at? names = some found) (hlink : ∀ target, found ≠ .link target)
    (hne : names ≠ []) {x : List String × Node}
    (hx : d.find (Path.join root (Path.ofNames names)) = .ok x) : x = (here ++ names, found) := by
  obtain ⟨there, other⟩ := x
  obtain ⟨-, j, -, hleads, hhere⟩ := find_eq_ok_iff.mp hroot
  obtain ⟨-, n, -, hjoined, hthere⟩ := find_eq_ok_iff.mp hx
  have hnode := Node.proper_of_at? hproper hhere
  obtain ⟨k, -, hnames⟩ := hleads.of_join hne (Node.isName_of_at? hnode h) hjoined
  obtain ⟨-, rfl⟩ := hnames.unique (Node.leads_of_at? hnode hhere h hlink)
  rw [Node.at?_append, hhere, Option.bind_some, h, Option.some.injEq] at hthere
  rw [hthere]

/-! ## Writing -/

namespace Entries

lemma mem_names_insert {name : String} {node : Node} {other : EntryName} :
    ∀ {es : Entries}, other ∈ (es.insert name node).names ↔ other = .text name ∨ other ∈ es.names
  | none => by simp [insert, names, toList]
  | entry n m others => by
      have ih : other ∈ (others.insert name node).names ↔ other = .text name ∨ other ∈ others.names :=
        mem_names_insert
      rw [insert]
      split
      · next hname => simp [names, toList, hname]
      · simp only [names, toList, List.map_cons, List.mem_cons] at ih ⊢
        rw [ih, or_left_comm]

lemma proper_insert {name : String} {node : Node} (hname : Path.IsName name) (hnode : node.proper) :
    ∀ {es : Entries}, es.proper → (es.insert name node).proper
  | none, _ => by
      rw [insert, proper_entry]
      simp [EntryName.proper, hname, hnode, names, toList, proper]
  | entry n m others, h => by
      obtain ⟨hn, hnew, hm, hothers⟩ := proper_entry.mp h
      rw [insert]
      split
      · exact proper_entry.mpr ⟨hn, hnew, hnode, hothers⟩
      · next hne =>
          refine proper_entry.mpr ⟨hn, ?_, hm, proper_insert hname hnode hothers⟩
          rw [mem_names_insert]
          exact not_or.mpr ⟨hne, hnew⟩

end Entries

/-- **Writing into a tree keeps its names proper.** -/
theorem Node.proper_put {new : Node} (hnew : new.proper) :
    ∀ {old : Node} {names : List String}, old.proper → (∀ n ∈ names, Path.IsName n) →
      (old.put new names).proper
  | _, [], _, _ => hnew
  | old, name :: rest, hold, h => by
      obtain ⟨hname, hrest⟩ := List.forall_mem_cons.mp h
      have hentries : old.entries.proper := by
        cases old with
        | directory listable es => exact hold
        | file => rfl
        | link => rfl
      have hchild : ((old.child? name).getD emptyDirectory).proper := by
        cases hfound : old.child? name with
        | none => rfl
        | some next => exact (proper_of_child? hold hfound).2.1
      have hentry : (((old.child? name).getD emptyDirectory).put new rest).proper :=
        proper_put hnew hchild hrest
      have hall := Entries.proper_insert hname hentry hentries
      cases old with
      | directory listable es => exact hall
      | file => exact hall
      | link => exact hall

end FunctionChurn
