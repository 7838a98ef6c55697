import FunctionChurn.Proofs.Report.Sites

/-!
# Faults stay where they strike

Files can be unreadable or no text, a parser can give up on a language or refuse its grammar, and a
history can be no text.  None of this ends a report: it loses the rows that were struck, or their
counts, and nothing else.

* `Faults` is any set of such faults, and `Surroundings.struck` a run on which they strike.
* `Faults.spares` is the test of a row whose file and language are not struck, `Faults.blurred` the row
  without the count of a history that is.
* **`Surroundings.collected_struck`** compares the report with that of a run without the faults.
-/

namespace FunctionChurn

/-! ## Faults -/

/-- **Faults that a report survives.** -/
structure Faults where
  /-- What a file that is struck gives instead of its content: a failure, or bytes that are no text. -/
  spoiled : String → Option (Except SystemFault Bytes)
  /-- Whether the parser gives up on the files of a language. -/
  treeless : Language → Bool
  /-- The reason why a language's grammar cannot be attached to a parser. -/
  broken : Language → Option String
  /-- What `git log` prints for a range that is struck, which is no text. -/
  garbled : String → Option CallResult
  spoiled_not_text : ∀ path bytes, spoiled path = some (.ok bytes) → Utf8.isText bytes = false
  garbled_not_text : ∀ range reply, garbled range = some reply → Utf8.isText reply.output = false

/-- The range that a call asks for. -/
def Call.range? : Call → Option String
  | ⟨[_, "log", "-L", range], _⟩ => some range
  | _ => none

/-- **A run on which faults strike.** -/
def Surroundings.struck (s : Surroundings) (F : Faults) : Surroundings :=
  { s with
    workshop := { s.workshop with
      read := fun path => (F.spoiled path).getD (s.workshop.read path)
      treeless := fun l => F.treeless l || s.workshop.treeless l
      broken := fun l => (F.broken l).or (s.workshop.broken l) }
    git := fun call =>
      match call.range?.bind F.garbled with
      | some reply => .ok reply
      | none => s.git call }

namespace Faults

/-- Whether a file is spared: it can be read, and its language can be searched. -/
def sparesFile (F : Faults) (f : SourceFile) : Bool :=
  (F.spoiled f.path).isNone && !F.treeless f.language && (F.broken f.language).isNone

/-- **Whether a row is left.** -/
def spares (F : Faults) (row : Row) : Bool := F.sparesFile ⟨row.file, Language.ofPath row.file⟩

/-- The reply that is struck, if any, for a function in a file. -/
def garbledAt (F : Faults) (s : Surroundings) (o : Options) (file name : String) :
    Option CallResult :=
  F.garbled (Inspector.range (Path.relative s.cwd file o.root) name)

/-- **What is left of a row**: if the history of its function is no text, no change. -/
def blurred (F : Faults) (s : Surroundings) (o : Options) (row : Row) : Row :=
  if (F.garbledAt s o row.file row.name).isSome then { row with freq := 0 } else row

end Faults

/-- Bytes that are no text are refused. -/
lemma Utf8.decode_of_not_isText {bytes : Bytes} (h : isText bytes = false) :
    ∃ m, decode bytes = .error m := by
  unfold isText at h
  cases hdecode : decode bytes with
  | error m => exact ⟨m, rfl⟩
  | ok text => simp [hdecode, Except.isOk, Except.toBool] at h

/-- A reply that is no text tells of no change. -/
lemma CallResult.changes_of_not_isText {reply : CallResult} (h : Utf8.isText reply.output = false) :
    reply.changes = 0 := by
  obtain ⟨m, hm⟩ := Utf8.decode_of_not_isText h
  rw [changes, hm]

namespace Surroundings

variable (s : Surroundings) (o : Options) (F : Faults)

/-! ## What faults do to files and sites -/

/-- A file that is spoiled, or whose language is given up on, has no text. -/
lemma source?_struck (f : SourceFile) :
    (s.struck F).workshop.source? f
      = if (F.spoiled f.path).isNone && !F.treeless f.language then s.workshop.source? f
        else none := by
  have hread : (s.struck F).workshop.read f.path
      = (F.spoiled f.path).getD (s.workshop.read f.path) := rfl
  have htreeless : (s.struck F).workshop.treeless f.language
      = (F.treeless f.language || s.workshop.treeless f.language) := rfl
  simp only [Workshop.source?, hread, htreeless]
  cases hspoiled : F.spoiled f.path with
  | none =>
      cases F.treeless f.language with
      | false => rfl
      | true =>
          simp only [Option.getD_none, Bool.true_or, if_true]
          cases s.workshop.read f.path with
          | error fault => rfl
          | ok bytes => cases hdecode : Utf8.decode bytes <;> simp [hdecode]
  | some content =>
      cases content with
      | error fault => rfl
      | ok bytes =>
          obtain ⟨m, hm⟩ := Utf8.decode_of_not_isText (F.spoiled_not_text _ _ hspoiled)
          simp [hm]

/-- A file that is spoiled, or whose language is given up on, has no sites. -/
lemma sitesIn_struck (f : SourceFile) :
    (s.struck F).sitesIn o f
      = if (F.spoiled f.path).isNone && !F.treeless f.language then s.sitesIn o f else [] := by
  simp only [sitesIn, Workshop.definitions, source?_struck]
  split <;> rfl

/-- **The sites that are left** are those in spared files. -/
theorem sites_struck :
    (s.struck F).sites o = (s.sites o).filter fun p => F.sparesFile p.file := by
  refine sites_eq_filter (fun _ => true) (fun l => (F.broken l).isNone) ?_ ?_ ?_
  · exact (List.filter_true _).symm
  · intro l
    simp only [serves, struck]
    cases F.broken l <;> simp
  · intro f
    have hfile : (s.sitesIn o f).filter (fun p => F.sparesFile p.file)
        = if F.sparesFile f then s.sitesIn o f else [] := by
      cases hf : F.sparesFile f with
      | true =>
          refine List.filter_eq_self.mpr fun p hp => ?_
          rwa [file_of_mem_sitesIn hp]
      | false =>
          refine List.filter_eq_nil_iff.mpr fun p hp => ?_
          simp [file_of_mem_sitesIn hp, hf]
    rw [hfile, sitesIn_struck, Faults.sparesFile]
    cases (F.broken f.language) <;> simp

/-! ## What faults do to rows -/

/-- The reply for a function in a file, when faults strike. -/
lemma git_struck (file name : String) :
    (s.struck F).git ((s.struck F).callAt o file name)
      = match F.garbledAt s o file name with
        | some reply => .ok reply
        | none => s.git (s.callAt o file name) := rfl

/-- The row of a site, when faults strike. -/
lemma rowAt_struck (p : Site) : (s.struck F).rowAt o p = F.blurred s o (s.rowAt o p) := by
  have hfile : (s.rowAt o p).file = p.file.path := rfl
  have hname : (s.rowAt o p).name = p.shown := rfl
  rw [Faults.blurred, hfile, hname, rowAt, changesAt, git_struck]
  cases hgarbled : F.garbledAt s o p.file.path p.shown with
  | none => rfl
  | some reply =>
      have hnone := CallResult.changes_of_not_isText (F.garbled_not_text _ _ hgarbled)
      simp only [hnone, rowAt, Option.isSome_some, if_true]
      rfl

variable {s o}

/-- **Faults stay where they strike.**  When there is a report without the faults, then there is one
with them.  Its rows are those of the spared files and languages, in their order and unchanged but for
the counts of the histories that are no text, which are zero. -/
theorem collected_struck {rows : List Row} (h : (s.collected o).2 = .ok rows) :
    ((s.struck F).collected o).2 = .ok ((rows.filter F.spares).map (F.blurred s o)) := by
  obtain ⟨⟨hprobe, hequip⟩, hfiles, hanswers, hrows⟩ := (s.collected_eq_ok_iff o rows).mp h
  refine ((s.struck F).collected_eq_ok_iff o _).mpr ⟨⟨hprobe, hequip⟩, hfiles, ?_, ?_⟩
  · intro p hp
    rw [sites_struck] at hp
    rw [Answers, git_struck]
    cases F.garbledAt s o p.file.path p.shown with
    | none => exact hanswers p (List.mem_filter.mp hp).1
    | some reply => exact ⟨reply, rfl⟩
  · have hspared : ∀ p ∈ s.sites o, F.spares (s.rowAt o p) = F.sparesFile p.file := by
      intro p hp
      have hfile : (⟨p.file.path, Language.ofPath p.file.path⟩ : SourceFile) = p.file := by
        rw [← language_of_mem_sites hp]
      exact congrArg F.sparesFile hfile
    rw [hrows, List.filter_map, List.map_map, sites_struck]
    have hkept : (s.sites o).filter (F.spares ∘ s.rowAt o)
        = (s.sites o).filter fun p => F.sparesFile p.file := List.filter_congr hspared
    rw [hkept]
    exact List.map_congr_left fun p _ => (s.rowAt_struck o F p).symm

end Surroundings

namespace Sample

/-- The small tree, with a git program that knows of changes to one more function. -/
def busy : Surroundings :=
  { tree with git := fun call => if call.range? = some ":one:a.rs" then .ok ⟨0, history 3⟩ else git call }

lemma discovered_busy : busy.discovered {} = files := discovered_tree

lemma collected_busy : (busy.collected {}).2
    = .ok [⟨"./b.go", 3, "(*T) three", 1⟩, ⟨"./b.go", 4, "four", 0⟩, ⟨"./a.rs", 1, "one", 3⟩,
      ⟨"./a.rs", 2, "two", 2⟩, ⟨"./d.rs", 1, "six", 0⟩, ⟨"./e.rs", 1, "seven", 0⟩,
      ⟨"./c.lua", 1, "five", 2⟩] := by
  refine (busy.collected_eq_ok_iff {} _).mpr ⟨⟨rfl, ready_tree.2⟩, ?_, fun p _ => ?_, ?_⟩
  · rw [discovered_busy]
    exact List.cons_ne_nil _ _
  · rw [Surroundings.Answers, busy]
    dsimp only
    split
    · exact ⟨_, rfl⟩
    · exact ⟨_, rfl⟩
  · simp only [Surroundings.sites, Language.searched, List.flatMap_cons, List.flatMap_nil,
      Surroundings.sitesOf, discovered_busy]
    decide +kernel

/-- Faults of all kinds for the small tree: two spoiled files, a language that is given up on, one whose
grammar is broken, and a history that is no text. -/
def faults : Faults where
  spoiled path :=
    if path = "./d.rs" then some (.error (.denied path))
    else if path = "./e.rs" then some (.ok [0xFF])
    else none
  treeless l := l = .lua
  broken l := if l = .go then some "unknown version" else none
  garbled range := if range = ":two:a.rs" then some ⟨0, [0xC3, 0x28]⟩ else none
  spoiled_not_text path bytes h := by
    split at h
    · simp at h
    · split at h
      · obtain rfl : [0xFF] = bytes := by simpa using h
        rfl
      · simp at h
  garbled_not_text range reply h := by
    split at h
    · obtain rfl : ⟨0, [0xC3, 0x28]⟩ = reply := by simpa using h
      rfl
    · simp at h

end Sample

/-- Of the small tree two rows are left: one keeps its count, and that of the other is lost. -/
theorem Surroundings.collected_struck_tree :
    ((Sample.busy.struck Sample.faults).collected {}).2
      = .ok [⟨"./a.rs", 1, "one", 3⟩, ⟨"./a.rs", 2, "two", 0⟩] := by
  refine (Surroundings.collected_struck Sample.faults Sample.collected_busy).trans
    (congrArg _ ?_)
  decide +kernel

end FunctionChurn
