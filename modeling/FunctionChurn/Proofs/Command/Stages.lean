import FunctionChurn.Command
import FunctionChurn.Proofs.Settings.Files

/-!
# The stages of the command

A run reads its arguments, opens its log file, checks its root, loads the settings and makes the report.
Each stage is told here by itself, so that later no one has to go through those before it.

* `Machine.Accepts` are the arguments that are read, `Machine.Reaches` that a run gets as far as its
  settings.
* `Machine.run_of_reaches`: from there on the settings decide.
* `Sample.machine` is a small project to look at.
-/

namespace FunctionChurn

namespace Disk

variable {d : Disk} {path : String}

/-- **What the two tests of a path say**: both are refused, or nothing is there, or no directory, or a
directory. -/
lemma tests_cases (d : Disk) (path : String) :
    (∃ f, d.exists path = .error f ∧ d.isDirectory path = .error f)
    ∨ (d.exists path = .ok false ∧ d.isDirectory path = .ok false)
    ∨ (d.exists path = .ok true ∧ d.isDirectory path = .ok false)
    ∨ (d.exists path = .ok true ∧ d.isDirectory path = .ok true) := by
  unfold «exists» isDirectory ask
  cases d.find path with
  | error o =>
      cases o with
      | refused r =>
          cases Path.holdsNull path with
          | true => exact .inr (.inl ⟨rfl, rfl⟩)
          | false => exact .inl ⟨_, rfl, rfl⟩
      | missing | notDirectory | tooManyLinks => exact .inr (.inl ⟨rfl, rfl⟩)
  | ok found =>
      cases hnode : found.2.isDirectory with
      | false => exact .inr (.inr (.inl ⟨rfl, congrArg Except.ok hnode⟩))
      | true => exact .inr (.inr (.inr ⟨rfl, congrArg Except.ok hnode⟩))

/-- What is a directory is there. -/
lemma exists_of_isDirectory (h : d.isDirectory path = .ok true) : d.exists path = .ok true := by
  rcases d.tests_cases path with ⟨f, -, hf⟩ | ⟨-, hf⟩ | ⟨-, hf⟩ | ⟨hthere, -⟩
  · simp [hf] at h
  · simp [hf] at h
  · simp [hf] at h
  · exact hthere

end Disk

namespace Machine

variable {m : Machine} {words : List String} {a : Arguments} {j : Journal} {d : Disk} {path : String}

/-- **The arguments of a command line** that does not ask for the version. -/
structure Accepts (words : List String) (a : Arguments) : Prop where
  plain : words.head? ≠ some "version"
  read : Arguments.read words = .ok a

/-- **A run gets as far as its settings**: its log file is open, and its root is a directory. -/
structure Reaches (m : Machine) (a : Arguments) (j : Journal) (d : Disk) (path : String) : Prop where
  opened : Journal.open m.disk a.logLevel a.logFile = .ok (j, d)
  home : d.expandHome a.chosenRoot = some path
  directory : d.isDirectory path = .ok true

lemma run_of_accepts (h : Accepts words a) : m.run words = m.runWith a := by
  rw [run, if_neg h.plain, h.read]

/-- **From the settings on** nothing else matters. -/
theorem run_of_reaches (h : Accepts words a) (h' : m.Reaches a j d path) :
    m.run words = m.runAt d j a path := by
  have hexists := Disk.exists_of_isDirectory h'.directory
  rw [run_of_accepts h, runWith, h'.opened]
  simp [runOn, h'.home, hexists, h'.directory]

/-- The settings of a file that says something. -/
lemma load_of_said {place root : String} {said : Settings.Report}
    (hplace : Settings.place d path = .ok place) (hroot : Settings.directoryOf d place = .ok root)
    (h : Settings.Says d place said) : Settings.load d path = Settings.ofReport root said := by
  rw [Settings.load_eq_loadFrom hplace hroot, Settings.loadFrom_of_said h]

end Machine

/-! ## A small project -/

namespace Sample

/-- A file with a text. -/
def textFile (text : String) : Node := .file (Utf8.encode text.toList) false

/-- A project with one function, and a settings file. -/
def project (settings : String) : Disk where
  top := .directory true
    (.entry (.text "r") (.directory true
      (.entry (.text "one.lua") (textFile "function one() end\n")
      (.entry (.text ".hotspots.yml") (textFile settings) .none))) .none)
  cwd := []
  home := "/r"

/-- A machine with a small project, on which a function never changed. -/
def machine (settings : String) : Machine where
  disk := project settings
  git := fun _ _ => .ok ⟨0, []⟩
  explain := fun _ => "no YAML"
  time := "0"
  elapsed := "0"

end Sample

end FunctionChurn
