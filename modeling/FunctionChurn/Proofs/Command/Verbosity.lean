import FunctionChurn.Proofs.Command.Precedence
import FunctionChurn.Proofs.Report.Verbosity

/-!
# What more records to see do to a run

Two command lines may ask for the same, and differ only in the number of `-V` and in whether progress is drawn.
Then the runs do the same.  Only on the error stream may one show more than the other: the lines of its log, which
stand in front of whatever else is said there.

* `Arguments.told` is a command line with another number of `-V`.
* `Machine.records` and `Machine.logLines` are what a run tells its log and what is shown of it;
  `Machine.diagnostic` is what it says without `-V`.
* `Machine.runWith_cases`: a run begins a report, or it ends before the number of `-V` matters.
* **`Machine.run_verbosity`** compares two runs.
-/

namespace FunctionChurn

/-- The same command line with another number of `-V`, and with or without progress drawn. -/
def Arguments.told (a : Arguments) (count : Nat) (noProgress : Bool) : Arguments :=
  { a with logLevel := count, noProgress := noProgress }

/-- Without a log file, records leave the file tree as it is. -/
lemma Journal.writeAll_of_no_file {j : Journal} (h : j.file = none) (time : String) (d : Disk) :
    ∀ rs : List Record, j.writeAll time d rs = d
  | [] => rfl
  | r :: rs => by
      have hwrite : j.write time d r = d := by rw [write, h]
      rw [writeAll, List.foldl_cons, hwrite]
      exact writeAll_of_no_file h time d rs

namespace Machine

variable {m : Machine} {words words' : List String} {a : Arguments}

/-! ## The log of a run -/

/-- **The choices for the report that a run begins**: its root must be a directory, and there must be settings. -/
def begun? (m : Machine) (a : Arguments) : Option Options :=
  match m.disk.expandHome a.chosenRoot with
  | none => none
  | some path =>
      if m.disk.isDirectory path = .ok true then
        (Settings.load m.disk (a.config.getD path)).toOption.map fun s =>
          a.options (s.merge a.overrides)
      else none

/-- **The records that a run makes** with a number of `-V`: those of its report, if it begins one. -/
def records (m : Machine) (a : Arguments) (count : Nat) : List Record :=
  match m.begun? a with
  | none => []
  | some o => (m.report m.disk { o with verbosity := count }).1.records

/-- **The log lines of a run** with a number of `-V`. -/
def logLines (m : Machine) (a : Arguments) (count : Nat) : List String :=
  Journal.lines count (m.records a count)

/-- **What a run says besides its log**: what is on the error stream without any `-V`. -/
def diagnostic (m : Machine) (a : Arguments) : String := (m.runWith (a.told 0 false)).errors

/-! ## One run with and without its log -/

/-- A run with its log is the run without it, and the lines of the log in front of what it says. -/
def WithLog (left silent : Outcome) (lines : List String) : Prop :=
  left = { silent with errors := String.join lines ++ silent.errors }

/-- What has no log is the same with and without it. -/
lemma withLog_nil (left : Outcome) : WithLog left left [] := by
  rw [WithLog, String.join_nil, String.empty_append]

/-- **A report is printed alike** at all verbosities. -/
lemma withLog_print (m : Machine) (d : Disk) (o : Options) {workers : Option Int}
    (h : Workers.isSize workers = true) (c : Nat) :
    WithLog (m.print d (Journal.configure c none) { o with verbosity := c } workers)
      (m.print d (Journal.configure 0 none) { o with verbosity := 0 } workers)
      (Journal.lines c (m.report d { o with verbosity := c }).1.records) := by
  have hready : Workers.isSize (Workers.configure {} workers).configured = true := h
  have hwrite : ∀ count rs, (Journal.configure count none).writeAll m.time d rs = d :=
    fun count rs => Journal.writeAll_of_no_file rfl m.time d rs
  have hnothing : (Journal.configure 0 none).streamTexts
      (m.report d { o with verbosity := 0 }).1.records = "" :=
    Journal.streamTexts_of_mild (Surroundings.mild_report _ _) none
  have halike : (m.report d { o with verbosity := 0 }).1.seenAt 0
        = (m.report d { o with verbosity := c }).1.seenAt 0
      ∧ (m.report d { o with verbosity := 0 }).2 = (m.report d { o with verbosity := c }).2 :=
    (m.surroundings d).report_verbosity o (Int.natCast_nonneg c)
  rcases hsilent : m.report d { o with verbosity := 0 } with ⟨t₀, rows₀⟩
  rcases hlog : m.report d { o with verbosity := c } with ⟨t, rows⟩
  rw [hsilent] at hnothing
  rw [hsilent, hlog] at halike
  obtain ⟨hseen, rfl⟩ := halike
  have hcalls : t₀.calls = t.calls := by simpa using congrArg Trace.calls hseen
  have hupdates : t₀.updates = t.updates := by simpa using congrArg Trace.updates hseen
  have hbatches : t₀.batches = t.batches := by simpa using congrArg Trace.batches hseen
  obtain ⟨worked, hworked⟩ := Workers.exists_work t.batches hready
  -- the pool gets the same batches, so it works in both runs or in neither
  rw [WithLog, print, print, hsilent, hlog]
  simp only [hbatches, hworked, hwrite, hnothing, Journal.streamTexts_configure, hcalls, hupdates]
  cases rows₀ with
  | ok rows => simp
  | error e => simp [String.append_assoc]

/-- A run without a log file begins with its root, whatever the number of `-V`. -/
lemma runWith_told (hlog : a.logFile = none) (c : Nat) (b : Bool) :
    m.runWith (a.told c b) = m.runOn m.disk (Journal.configure c none) (a.told c b) := by
  have hfile : (a.told c b).logFile = none := hlog
  rw [runWith, hfile]
  rfl

/-- **How a run goes on** behind its arguments, if there is no log file.  It ends without a report, whatever the
number of `-V`, and then it does not succeed; or it begins a report. -/
lemma runWith_cases (m : Machine) (hlog : a.logFile = none) :
    (m.begun? a = none ∧ ∃ left, left.ending ≠ .success ∧ ∀ c b, m.runWith (a.told c b) = left)
    ∨ ∃ o workers, m.begun? a = some o ∧ Workers.isSize workers = true
        ∧ ∀ (c : Nat) b, m.runWith (a.told c b)
          = m.print m.disk (Journal.configure c none) { o with verbosity := c } workers := by
  have hroot : ∀ c b, (a.told c b).chosenRoot = a.chosenRoot := fun _ _ => rfl
  have hrefused : ∀ sentence, (refuse m.disk sentence).ending ≠ .success :=
    fun _ => by simp [refuse]
  simp only [runWith_told hlog, runOn, hroot, begun?]
  cases m.disk.expandHome a.chosenRoot with
  | none => exact .inl ⟨rfl, _, by simp, fun _ _ => rfl⟩
  | some path =>
      dsimp only
      have hno : (Except.ok false : Except SystemFault Bool) ≠ .ok true := by simp
      rcases m.disk.tests_cases path with ⟨f, hexists, hdirectory⟩ | ⟨hexists, hdirectory⟩
        | ⟨hexists, hdirectory⟩ | ⟨hexists, hdirectory⟩
      · rw [hexists, hdirectory, if_neg (by simp)]
        exact .inl ⟨rfl, _, by simp, fun _ _ => rfl⟩
      · rw [hexists, hdirectory, if_neg hno]
        exact .inl ⟨rfl, _, hrefused _, fun _ _ => rfl⟩
      · rw [hexists, hdirectory, if_neg hno]
        exact .inl ⟨rfl, _, hrefused _, fun _ _ => rfl⟩
      · have hat : ∀ c b, (a.told c b).config.getD path = a.config.getD path := fun _ _ => rfl
        simp only [hexists, hdirectory, if_true, runAt, hat]
        cases hload : Settings.load m.disk (a.config.getD path) with
        | ok s =>
            have hsize : Workers.isSize s.workers = true := Settings.isSize_of_load hload
            exact .inr ⟨_, s.workers, rfl, hsize, fun _ _ => rfl⟩
        | error f =>
            cases f with
            | file e => exact .inl ⟨rfl, _, hrefused _, fun _ _ => rfl⟩
            | _ => exact .inl ⟨rfl, _, by simp, fun _ _ => rfl⟩

/-- **A run is the run without its log**, with the lines of its log in front of what it says. -/
lemma withLog_runWith (m : Machine) (hlog : a.logFile = none) (c : Nat) (b : Bool) :
    WithLog (m.runWith (a.told c b)) (m.runWith (a.told 0 false)) (m.logLines a c) := by
  rcases m.runWith_cases hlog with ⟨hnone, left, -, hleft⟩ | ⟨o, workers, hbegun, hsize, hprint⟩
  · rw [hleft, hleft, logLines, records, hnone]
    exact withLog_nil left
  · rw [hprint, hprint, logLines, records, hbegun]
    exact withLog_print m m.disk o hsize c

/-- A run that succeeds says nothing besides its log. -/
lemma diagnostic_of_success (hlog : a.logFile = none) {c : Nat} {b : Bool}
    (h : (m.runWith (a.told c b)).ending = .success) : m.diagnostic a = "" := by
  rw [withLog_runWith m hlog c b] at h
  rw [diagnostic]
  rcases m.runWith_cases hlog with ⟨-, left, hends, hleft⟩ | ⟨o, workers, -, hsize, hprint⟩
  · rw [hleft] at h
    exact absurd h hends
  · rw [hprint] at h ⊢
    obtain ⟨houtcome, -⟩ := m.print_spec m.disk (Journal.configure (0 : Nat) none)
      { o with verbosity := (0 : Nat) } hsize
    split at houtcome
    · rw [houtcome.1] at h
      contradiction
    · rw [houtcome.2.1]
      exact Journal.streamTexts_of_mild (Surroundings.mild_report _ _) none

/-! ## Two runs -/

/-- **More `-V` change nothing, and only add log lines.**  Two command lines ask for the same, with no log file,
and differ in the number of `-V` and in whether progress is drawn.  They are run on one machine, so measured times
read the same in both logs.

1. Both runs end in the same way with the same output, and leave the same file tree; the same programs are
   called, and the same progress messages sent.
2. On the error stream are the lines of the log, and then the same text for both: what the run says without any
   `-V`, which is nothing when it succeeds.
3. The lines of the run with fewer `-V` stand in the log of the other in the same order.  They are the lines for
   those of its records that are important enough. -/
theorem run_verbosity (m : Machine) (hlog : a.logFile = none) {c c' : Nat} {b b' : Bool}
    (h : Accepts words (a.told c b)) (h' : Accepts words' (a.told c' b')) (hle : c ≤ c') :
    m.run words' = { m.run words with errors := String.join (m.logLines a c') ++ m.diagnostic a }
    ∧ (m.run words).errors = String.join (m.logLines a c) ++ m.diagnostic a
    ∧ ((m.run words).ending = .success → m.diagnostic a = "")
    ∧ (m.logLines a c).Sublist (m.logLines a c')
    ∧ m.logLines a c = Journal.lines c (m.records a c') := by
  have hquiet := withLog_runWith m hlog c b
  have hloud := withLog_runWith m hlog c' b'
  have hlines : m.logLines a c = Journal.lines c (m.records a c') := by
    rw [logLines, records, records]
    cases m.begun? a with
    | none => rfl
    | some o =>
        have hseen := ((m.surroundings m.disk).report_verbosity o (Int.ofNat_le.mpr hle)).1
        exact congrArg (fun t => t.records.map Record.streamLine) hseen
  rw [run_of_accepts h, run_of_accepts h']
  refine ⟨?_, ?_, diagnostic_of_success hlog, ?_, hlines⟩
  · rw [hquiet, hloud]
    rfl
  · rw [hquiet]
    rfl
  · rw [hlines]
    exact Journal.lines_sublist (Int.ofNat_le.mpr hle) _

end Machine

/-! ## A program that is gone -/

/-- A small project, whose git program is gone as soon as it has found the work tree. -/
def Sample.gone : Machine :=
  { machine "" with
    supplies := tree.supplies
    git := fun _ call =>
      if call.arguments.contains "log" then .error (.missing "git") else .ok ⟨0, []⟩ }

/-- With three `-V` a run tells of the file before it tells that git is gone.  With four it tells the same, among
more, and ends in the same way. -/
theorem Machine.run_verbosity_gone :
    (Sample.gone.run ["-VVV", "r"]).ending = .exit 1
    ∧ (Sample.gone.run ["-VVV", "r"]).errors = "[hotspots] INFO Added r/one.lua\n"
      ++ "git-hotspots failed: Failed to run git: [Errno 2] No such file or directory: 'git'\n"
      ++ "Run with -VVVV for more details.\n"
    ∧ (Sample.gone.run ["r", "-VVVV", "--no-progress"]).ending = .exit 1
    ∧ (Sample.gone.run ["r", "-VVVV", "--no-progress"]).calls = (Sample.gone.run ["-VVV", "r"]).calls
    ∧ (Sample.gone.run ["r", "-VVVV", "--no-progress"]).errors
      = "[hotspots] DEBUG Discovery took 0s (1 files)\n"
      ++ "[hotspots] DEBUG Discovered 1 files\n"
      ++ "[hotspots] INFO Added r/one.lua\n"
      ++ "[hotspots] DEBUG Parser Go didn't find any files\n"
      ++ "[hotspots] DEBUG Parser Rust didn't find any files\n"
      ++ "[hotspots] DEBUG Finding Lua functions took 0s\n"
      ++ "git-hotspots failed: Failed to run git: [Errno 2] No such file or directory: 'git'\n"
      ++ "Run with -VVVV for more details.\n" := by
  have hquiet : Accepts ["-VVV", "r"] (Arguments.told { root := some "r" } 3 false) :=
    ⟨by decide, by decide +kernel⟩
  have hloud : Accepts ["r", "-VVVV", "--no-progress"] (Arguments.told { root := some "r" } 4 true) :=
    ⟨by decide, by decide +kernel⟩
  have hends : (Sample.gone.run ["-VVV", "r"]).ending = .exit 1 := by decide +kernel
  obtain ⟨hsame, herrors, -, -, -⟩ := Sample.gone.run_verbosity rfl hquiet hloud (by decide)
  rw [hsame, herrors]
  dsimp only
  exact ⟨hends, by decide +kernel, hends, rfl, by decide +kernel⟩

end FunctionChurn
