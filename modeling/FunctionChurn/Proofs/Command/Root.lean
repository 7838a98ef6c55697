import FunctionChurn.Proofs.Command.Stages
import FunctionChurn.Proofs.Disk.Settle
import FunctionChurn.Proofs.Report.Spelling

/-!
# One directory for a whole run

A run uses its root five times: it is checked, the settings file is looked for in it, files are searched below
it, prefixes are put behind it, and the program is called in it.  The first two make the path tidy, and a tilde
at its front stands for a home directory.  The other three take the root as it was given, but for the program,
for which it is made tidy as well.

* `Disk.Names` says that a path names the directory at a place.
* `Settings.place_congr`, `Settings.load_congr`: the settings for a directory are the same for all its names.
* `Machine.About` says that a report is about the directory at a place.
* **`Machine.run_one_root`**: a root without a tilde is the same directory all five times.
* `Machine.not_run_one_root`: with a tilde in front it need not be.
-/

namespace FunctionChurn

namespace Disk

variable {d : Disk} {here : List String} {path : String}

/-- **A path names the directory** at a place. -/
def Names (d : Disk) (here : List String) (path : String) : Prop :=
  ∃ listable es, d.find path = .ok (here, .directory listable es)

lemma exists_names (h : d.isDirectory path = .ok true) : ∃ here, d.Names here path := by
  unfold isDirectory ask at h
  split at h
  · next here node hfind =>
      cases node with
      | directory listable es => exact ⟨here, listable, es, hfind⟩
      | file => simp [Node.isDirectory] at h
      | link => simp [Node.isDirectory] at h
  · split at h <;> simp at h
  · simp at h

lemma Names.isDirectory (h : d.Names here path) : d.isDirectory path = .ok true := by
  obtain ⟨listable, es, hfind⟩ := h
  rw [Disk.isDirectory, ask, hfind]
  rfl

lemma Names.leads (h : d.Names here path) : ∃ k, d.Leads (d.refuses .search) k path here := by
  obtain ⟨listable, es, hfind⟩ := h
  obtain ⟨-, k, -, hleads, -⟩ := find_eq_ok_iff.mp hfind
  exact ⟨k, hleads⟩

lemma Names.tidy (h : d.Names here path) : d.Names here (Path.tidy path) := by
  obtain ⟨listable, es, hfind⟩ := h
  exact ⟨listable, es, find_tidy hfind⟩

/-- A path names a directory if it does so when it is tidy, unless the system refuses it as it is spelled. -/
lemma Names.of_tidy (h : d.Names here (Path.tidy path)) (hne : path ≠ "") :
    d.Names here path ∨ ∃ r, d.find path = .error (.refused r) := by
  obtain ⟨listable, es, hfind⟩ := h
  exact (find_of_tidy hne hfind).imp_left fun hfound => ⟨listable, es, hfound⟩

/-- Files below a directory stand below its place. -/
lemma Names.at?_of_fileBelow (h : d.Names here path) {names : List String} (hbelow : d.FileBelow path names) :
    ∃ found, d.top.at? (here ++ names) = some found
      ∧ d.countsAsFile (Path.join path (Path.ofNames names)) found = true := by
  obtain ⟨listable, es, hfind⟩ := h
  obtain ⟨-, there, node, hroot, -, found, hfound, hfile⟩ := hbelow
  obtain ⟨rfl, rfl⟩ := Prod.mk.inj (Except.ok.inj (hfind.symm.trans hroot))
  obtain ⟨-, _, _, _, hnode⟩ := find_eq_ok_iff.mp hfind
  exact ⟨found, by rw [Node.at?_append, hnode, Option.bind_some, hfound], hfile⟩

/-- No files are below a path that is refused. -/
lemma not_fileBelow_of_refused {r : Refusal} (h : d.find path = .error (.refused r)) (names : List String) :
    ¬ d.FileBelow path names := by
  rintro ⟨-, there, node, hroot, -⟩
  simp [h] at hroot

end Disk

/-! ## The settings for a directory -/

namespace Settings

variable {d : Disk} {here : List String} {path path' : String}

lemma isName_settingsName : Path.IsName settingsName := by decide

/-- The settings file for a directory. -/
lemma place_of_names (h : d.Names here path) (htilde : Path.hasTilde path = false) :
    place d path = (d.settle (Path.join (Path.tidy path) settingsName)).mapError .linkLoop := by
  rw [place, Disk.expandHome, if_neg (by simp [htilde])]
  dsimp only
  rw [h.tidy.isDirectory]
  rfl

/-- **The settings file of a directory** is the same for all its names. -/
theorem place_congr (h : d.Names here path) (h' : d.Names here path')
    (htilde : Path.hasTilde path = false) (htilde' : Path.hasTilde path' = false) :
    place d path = place d path' := by
  have hone : Path.ofNames [settingsName] = settingsName := by decide
  have hnames : ∀ n ∈ [settingsName], Path.IsName n := by simpa using isName_settingsName
  obtain ⟨k, hleads⟩ := h.tidy.leads
  obtain ⟨k', hleads'⟩ := h'.tidy.leads
  have hsettle := Disk.settle_join_congr hleads hleads' (List.cons_ne_nil settingsName []) hnames
  rw [hone] at hsettle
  rw [place_of_names h htilde, place_of_names h' htilde', hsettle]

/-- So are the settings in it. -/
theorem load_congr (h : d.Names here path) (h' : d.Names here path')
    (htilde : Path.hasTilde path = false) (htilde' : Path.hasTilde path' = false) :
    load d path = load d path' := by
  rw [load, load, place_congr h h' htilde htilde']

/-- **The settings file of a directory is in it**, unless a link leads elsewhere. -/
theorem place_eq_absolute (h : d.Names here path) (htilde : Path.hasTilde path = false)
    (hlink : ∀ target, d.top.at? (here ++ [settingsName]) ≠ some (.link target)) :
    place d path = .ok (Path.absolute (here ++ [settingsName])) := by
  obtain ⟨k, hleads⟩ := h.tidy.leads
  rw [place_of_names h htilde, Disk.settle_join hleads isName_settingsName hlink]
  rfl

end Settings

/-! ## The calls of a report -/

/-- **Every call of a report is made in its root**, whatever comes of the report. -/
theorem Surroundings.directory_of_mem_calls {s : Surroundings} {o : Options} {c : Call}
    (h : c ∈ (s.report o).1.calls) : c.directory = Path.tidy o.root := by
  have hprobe : ∀ {cs : List Call}, cs = [(Reporter.inspector o).probeCall] → c ∈ cs →
      c.directory = Path.tidy o.root := by
    rintro _ rfl hc
    rw [List.mem_singleton.mp hc]
    rfl
  rw [(s.report_eq o).2] at h
  cases hopen : (Reporter.open s o Language.searched).2 with
  | error e => exact hprobe (collected_of_open_error hopen).2 h
  | ok r =>
      have hready : s.Ready o := Reporter.ready_of_open (Prod.ext rfl hopen)
      by_cases hnone : s.discovered o = []
      · exact hprobe (collected_of_none hready hnone).2 h
      · rw [(collected_of_ready hready hnone).2, List.mem_cons, Inventory.calls_rowsOfAll_tried] at h
        rcases h with rfl | h
        · rfl
        · obtain ⟨e, -, rfl⟩ := List.mem_map.mp h
          rfl

namespace Machine

variable {m : Machine} {words : List String} {a : Arguments} {d : Disk} {j : Journal} {path : String}
  {here : List String} {o : Options}

/-- A run that makes a report makes no other calls. -/
lemma calls_print {workers : Option Int} {c : Call} (h : c ∈ (m.print d j o workers).calls) :
    c.directory = Path.tidy o.root := by
  unfold print at h
  dsimp only at h
  split at h
  · rw [List.mem_singleton.mp h]
    rfl
  · have hcalls : c ∈ (m.report d o).1.calls := by
      split at h <;> exact h
    exact Surroundings.directory_of_mem_calls hcalls

/-! ## One directory -/

/-- **A report is about the directory at a place**: its root names it, unless the system refuses the root as it
is spelled; the files of the report are those that are found there, narrowed to the prefixes behind it, and all
calls are made in it. -/
structure About (m : Machine) (d : Disk) (here : List String) (o : Options) : Prop where
  root : d.Names here o.root ∨ ∃ r, d.find o.root = .error (.refused r)
  files : ∀ f, f ∈ (m.surroundings d).discovered o ↔
    ∃ names, d.Finds ⟨o.prefixes.map (Path.join o.root), o.invertMatch⟩ o.root names
      ∧ f = Disk.sourceAt o.root names
  below : ∀ names, d.FileBelow o.root names → ∃ found, d.top.at? (here ++ names) = some found
    ∧ d.countsAsFile (Path.join o.root (Path.ofNames names)) found = true
  calls : ∀ c ∈ (m.report d o).1.calls, d.Names here c.directory

lemma about_of_names (m : Machine) (hproper : d.top.proper) (h : d.Names here (Path.tidy o.root))
    (hne : o.root ≠ "") : m.About d here o where
  root := h.of_tidy hne
  files := fun _ => Disk.mem_discover_filesBelow hproper _ o.root
  below := fun names hbelow => by
    rcases h.of_tidy hne with hroot | ⟨r, hrefused⟩
    · exact hroot.at?_of_fileBelow hbelow
    · exact absurd hbelow (Disk.not_fileBelow_of_refused hrefused names)
  calls := fun c hc => by
    rw [Surroundings.directory_of_mem_calls hc]
    exact h

/-- The root that is asked for is never empty. -/
lemma chosenRoot_ne_empty (a : Arguments) : a.chosenRoot ≠ "" := by
  have hkept : ∀ root : Option String, root.filter (· ≠ "") ≠ some "" := by
    rintro (_ | root)
    · nofun
    · by_cases hroot : root = "" <;> simp [hroot]
  rw [Arguments.chosenRoot]
  cases hoption : a.rootOption.filter (· ≠ "") with
  | some root =>
      rintro rfl
      exact hkept _ hoption
  | none =>
      cases hroot : a.root.filter (· ≠ "") with
      | some root =>
          rintro rfl
          exact hkept _ hroot
      | none => decide

/-- **One directory for a whole run.**  The root of a run is a directory, however it is spelled, but it has no
tilde in front, and the run is told no other settings file.  Then there is one place such that

1. the path that is checked names the directory there;
2. the settings file is in it, unless a link leads elsewhere, and any other name of the directory would give
   the same settings;
3. the report that the run makes is about it, and the run makes no call anywhere else. -/
theorem run_one_root (h : Accepts words a) (h' : m.Reaches a j d path) (hconfig : a.config = none)
    (htilde : Path.hasTilde a.chosenRoot = false) (hproper : d.top.proper) :
    ∃ here, d.Names here path
      ∧ ((∀ target, d.top.at? (here ++ [settingsName]) ≠ some (.link target)) →
          Settings.place d path = .ok (Path.absolute (here ++ [settingsName])))
      ∧ (∀ other, d.Names here other → Path.hasTilde other = false →
          Settings.load d other = Settings.load d path)
      ∧ (∀ s, Settings.load d path = .ok s →
          m.run words = m.print d j (a.options (s.merge a.overrides)) s.workers
            ∧ m.About d here (a.options (s.merge a.overrides)))
      ∧ ∀ c ∈ (m.run words).calls, d.Names here c.directory := by
  have hpath : path = Path.tidy a.chosenRoot := by
    have hhome := h'.home
    rw [Disk.expandHome, if_neg (by simp [htilde])] at hhome
    exact (Option.some.inj hhome).symm
  have htidy : Path.hasTilde path = false := by rw [hpath, Path.hasTilde_tidy, htilde]
  obtain ⟨here, hhere⟩ := Disk.exists_names h'.directory
  have hroot : d.Names here (Path.tidy a.chosenRoot) := hpath ▸ hhere
  have hrun : m.run words = m.runAt d j a path := run_of_reaches h h'
  rw [runAt, hconfig, Option.getD_none] at hrun
  refine ⟨here, hhere, Settings.place_eq_absolute hhere htidy,
    fun other hother hplain => Settings.load_congr hother hhere hplain htidy, fun s hs => ?_, ?_⟩
  · rw [hs] at hrun
    exact ⟨hrun, about_of_names m hproper hroot (chosenRoot_ne_empty a)⟩
  · intro c hc
    rw [hrun] at hc
    split at hc
    · contradiction
    · contradiction
    · rw [calls_print hc]
      exact hroot

end Machine

/-! ## A tilde in front -/

namespace Sample

/-- A small project in a home directory. -/
def homely : Machine := { machine "" with supplies := tree.supplies }

end Sample

namespace Machine

/-- A root with dots and slashes is one directory for a whole run. -/
theorem run_one_root_dotted :
    Accepts ["./r/."] { root := some "./r/." }
    ∧ Sample.homely.Reaches { root := some "./r/." } (Journal.configure 0 none) Sample.homely.disk "r"
    ∧ Path.hasTilde "./r/." = false ∧ Sample.homely.disk.top.proper = true
    ∧ Sample.homely.disk.Names ["r"] "r"
    ∧ Settings.place Sample.homely.disk "r" = .ok "/r/.hotspots.yml"
    ∧ ∀ c ∈ (Sample.homely.run ["./r/."]).calls, Sample.homely.disk.Names ["r"] c.directory := by
  have haccepts : Accepts ["./r/."] { root := some "./r/." } := ⟨by decide, by decide +kernel⟩
  have hreaches : Sample.homely.Reaches { root := some "./r/." } (Journal.configure 0 none)
      Sample.homely.disk "r" := ⟨rfl, by decide +kernel, by decide +kernel⟩
  have htilde : Path.hasTilde "./r/." = false := by decide +kernel
  have hproper : Sample.homely.disk.top.proper = true := by decide +kernel
  obtain ⟨here, hhere, hplace, -, -, hcalls⟩ := run_one_root haccepts hreaches rfl htilde hproper
  obtain rfl : here = ["r"] := by
    obtain ⟨listable, es, hfind⟩ := hhere
    have hr : (Sample.homely.disk.find "r").map Prod.fst = .ok ["r"] := by decide +kernel
    rw [hfind] at hr
    exact Except.ok.inj hr
  exact ⟨haccepts, hreaches, htilde, hproper, hhere, hplace fun _ => nofun, hcalls⟩

/-- **With a tilde in front a root need not be one directory.**  The home directory is there, and so is its
settings file, but no files are searched in it, and the program is called in a directory that is not there. -/
theorem not_run_one_root :
    Accepts ["~"] { root := some "~" }
    ∧ Sample.homely.Reaches { root := some "~" } (Journal.configure 0 none) Sample.homely.disk "/r"
    ∧ Settings.place Sample.homely.disk "/r" = .ok "/r/.hotspots.yml"
    ∧ Sample.homely.disk.filesBelow "/r" = ["/r/one.lua", "/r/.hotspots.yml"]
    ∧ Sample.homely.disk.filesBelow "~" = []
    ∧ (Sample.homely.run ["~"]).calls = [⟨["git", "rev-parse", "--is-inside-work-tree"], "~"⟩]
    ∧ Sample.homely.disk.exists "~" = .ok false
    ∧ (Sample.homely.run ["~"]).errors = "git-hotspots failed: No files found in the current directory\n"
      ++ "Run with -VVVV for more details.\n" :=
  ⟨⟨by decide, by decide +kernel⟩, ⟨rfl, by decide +kernel, by decide +kernel⟩, by decide +kernel,
    by decide +kernel, by decide +kernel, by decide +kernel, by decide +kernel, by decide +kernel⟩

end Machine

end FunctionChurn
