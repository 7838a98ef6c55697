import FunctionChurn.Proofs.Grammar
import FunctionChurn.Proofs.Report.Sites

/-!
# Why a report is not made

Several things can be wrong with a report at once: there may be no work tree to ask about, a grammar may be
missing, nothing may be left to inspect, and the program may not start for some of the functions.  They can
be listed without making the report.

* `Surroundings.refusal?` is why the history of a function cannot be had.
* `Surroundings.faults` lists all that is wrong, in the order in which it is met.
* **`Surroundings.failure?_report`**: a report fails with the first of it, and is made if there is nothing.
* `Surroundings.report_of_faults_eq_nil`: what it shows then.
-/

namespace FunctionChurn

namespace Surroundings

variable (s : Surroundings) (o : Options)

/-- **Why the history of a function cannot be had**: the program does not start. -/
def refusal? (p : Site) : Option HistoryError :=
  (failure? (s.git (s.callAt o p.file.path p.shown))).map (.launch o.git)

/-- **All that is wrong with a report**, in the order in which it is met: the work tree, the grammars in
their order, the files, and the functions in the order of their sites. -/
def faults : List ReportError :=
  (failure? ((Reporter.inspector o).probe s.git)).toList.map .history
    ++ (Language.searched.filterMap s.supplies.fault?).map .grammar
    ++ (if s.discovered o = [] then [.noFiles] else [])
    ++ ((s.sites o).filterMap (s.refusal? o)).map .history

variable {s o}

/-- A look-up fails when the program does not start. -/
lemma failure?_score (p : Site) : failure? (Reporter.score s o p.element).2 = s.refusal? o p := by
  have hcall : s.git ((Reporter.inspector o).lookupCall
      (Path.relative s.cwd p.element.file o.root) p.element.name)
        = s.git (s.callAt o p.file.path p.shown) := rfl
  rw [refusal?, Reporter.score, Inspector.lookup, hcall]
  cases s.git (s.callAt o p.file.path p.shown) with
  | error fault => rfl
  | ok reply =>
      dsimp only
      cases Utf8.decode reply.output <;> rfl

/-- **A report cannot be prepared** without a work tree, or without a grammar. -/
lemma failure?_open : failure? (Reporter.open s o Language.searched).2
    = ((failure? ((Reporter.inspector o).probe s.git)).map .history).or
        ((Language.searched.findSome? s.supplies.fault?).map .grammar) := by
  have hequip : failure? (Reporter.equip s.supplies {} Language.searched)
      = Language.searched.findSome? s.supplies.fault? :=
    Reporter.failure?_equip s.supplies (by decide) fun _ _ => ⟨rfl, rfl⟩
  rw [← hequip, Reporter.open]
  cases (Reporter.inspector o).probe s.git with
  | error e => rfl
  | ok u =>
      dsimp only
      cases Reporter.equip s.supplies {} Language.searched <;> rfl

/-- **A report that was prepared and finds files** fails with the first function whose history cannot be
had. -/
lemma failure?_collected_of_ready (hready : s.Ready o) (hfound : s.discovered o ≠ []) :
    failure? (s.collected o).2 = ((s.sites o).findSome? (s.refusal? o)).map .history := by
  rw [(collected_of_ready hready hfound).1, Reporter.snd_rowsOfAll, flatMap_found, failure?_mapError,
    failure?_collect, List.map_map, List.findSome?_map]
  refine congrArg (Option.map ReportError.history) (congrArg (List.findSome? · (s.sites o)) ?_)
  funext p
  exact failure?_score p

/-- **A report fails with the first thing that is wrong with it**, and is made if nothing is. -/
theorem failure?_report : failure? (s.report o).2 = (s.faults o).head? := by
  rw [(report_eq s o).1, failure?_map, faults, List.head?_append, List.head?_append, List.head?_append,
    List.head?_map, List.head?_map, List.head?_map, List.head?_filterMap, List.head?_filterMap]
  have hopen := failure?_open (s := s) (o := o)
  have hhead : (failure? ((Reporter.inspector o).probe s.git)).toList.head?
      = failure? ((Reporter.inspector o).probe s.git) := by
    cases failure? ((Reporter.inspector o).probe s.git) <;> rfl
  rw [hhead, ← hopen]
  cases hprepared : (Reporter.open s o Language.searched).2 with
  | error e => rw [(collected_of_open_error hprepared).1]; rfl
  | ok r =>
      have hready : s.Ready o := Reporter.ready_of_open (Prod.ext rfl hprepared)
      by_cases hnone : s.discovered o = []
      · rw [(collected_of_none hready hnone).1, if_pos hnone]
        rfl
      · rw [failure?_collected_of_ready hready hnone, if_neg hnone]
        rfl

/-- **A report that nothing is wrong with** shows a window on the ranking of its sites. -/
theorem report_of_faults_eq_nil (h : s.faults o = []) :
    (s.report o).2 = .ok (Reporter.shown o ((s.sites o).map (s.rowAt o))) := by
  have hnone : failure? (s.collected o).2 = none := by
    have hreport := failure?_report (s := s) (o := o)
    rwa [(report_eq s o).1, failure?_map, h] at hreport
  obtain ⟨rows, hrows⟩ := failure?_eq_none_iff.mp hnone
  obtain ⟨-, -, -, rfl⟩ := (collected_eq_ok_iff s o rows).mp hrows
  rw [(report_eq s o).1, hrows]
  rfl

end Surroundings

end FunctionChurn
