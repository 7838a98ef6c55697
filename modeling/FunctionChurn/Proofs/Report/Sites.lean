import FunctionChurn.Proofs.Discovery
import FunctionChurn.Proofs.Report.Dispatch

/-!
# A report site by site

A *site* is a place where a discovered file defines a function that no term drops.  The sites of a
report can be listed without making it, and then the report is nothing but one look-up for each of
them:

* `Surroundings.sites` lists the sites: language by language in the order of the report, file by file
  in the order of discovery, and in each file from front to back.
* `Surroundings.rowAt` is the row of a site, `Surroundings.callAt` the call that asks for its history.
* `Surroundings.sites_eq_filter` compares the sites of two reports, one of which leaves some out.
* **`Surroundings.collected_eq_ok_iff`**: when there is a report, and what its rows are.  Everything
  that is said about the rows of a report elsewhere starts from it.
* `Sample.tree` is a small tree to look at, with functions of all three languages.
-/

namespace FunctionChurn

open Source

/-! ## Sites -/

/-- **A place where a file defines a function.** -/
structure Site where
  file : SourceFile
  definition : Definition
  deriving DecidableEq, Repr

namespace Site

/-- The name that the report shows for a site. -/
def shown (p : Site) : String := p.definition.shown

/-- The element that is found at a site. -/
def element (p : Site) : Element := p.definition.element p.file.path

end Site

/-- Whether a term drops a name. -/
def Options.drops (o : Options) (name : String) : Bool := o.excludeFunc.any (Text.contains name)

namespace Surroundings

/-- The files that are discovered for a report, in their order. -/
def discovered (s : Surroundings) (o : Options) : List SourceFile :=
  discover (Reporter.narrowed o {}) (s.listing o.root)

/-- Whether the functions of a language can be found. -/
def serves (s : Surroundings) (l : Language) : Bool :=
  !s.refused l && (s.workshop.broken l).isNone

/-- The sites in a file. -/
def sitesIn (s : Surroundings) (o : Options) (f : SourceFile) : List Site :=
  ((s.workshop.definitions f).filter fun d => !o.drops d.shown).map (Site.mk f)

/-- The sites of a language, file by file. -/
def sitesOf (s : Surroundings) (o : Options) (l : Language) : List Site :=
  if s.serves l then ((s.discovered o).filter (·.language = l)).flatMap (s.sitesIn o) else []

/-- **The sites of a report**, language by language. -/
def sites (s : Surroundings) (o : Options) : List Site := Language.searched.flatMap (s.sitesOf o)

/-- The call that asks for the history of a function in a file, by the path of the file seen from
the root. -/
def callAt (s : Surroundings) (o : Options) (file name : String) : Call :=
  (Reporter.inspector o).lookupCall (Path.relative s.cwd file o.root) name

/-- How often a function in a file changed, by the reply to the call for it. -/
def changesAt (s : Surroundings) (o : Options) (file name : String) : Nat :=
  match s.git (s.callAt o file name) with
  | .ok reply => reply.changes
  | .error _ => 0

/-- **The row of a site.** -/
def rowAt (s : Surroundings) (o : Options) (p : Site) : Row :=
  ⟨p.file.path, p.definition.name.line, p.shown, s.changesAt o p.file.path p.shown⟩

/-- Whether the call for a site can be launched. -/
def Answers (s : Surroundings) (o : Options) (p : Site) : Prop :=
  ∃ reply, s.git (s.callAt o p.file.path p.shown) = .ok reply

/-! ## The files of sites -/

lemma file_of_mem_sitesIn {s : Surroundings} {o : Options} {f : SourceFile} {p : Site}
    (h : p ∈ s.sitesIn o f) : p.file = f := by
  obtain ⟨d, _, rfl⟩ := List.mem_map.mp h
  rfl

lemma file_of_mem_sitesOf {s : Surroundings} {o : Options} {l : Language} {p : Site}
    (h : p ∈ s.sitesOf o l) : p.file ∈ s.discovered o ∧ p.file.language = l := by
  unfold sitesOf at h
  split at h
  · obtain ⟨f, hf, hp⟩ := List.mem_flatMap.mp h
    rw [file_of_mem_sitesIn hp]
    simpa using List.mem_filter.mp hf
  · simp at h

/-- The file of a site is in the language of its path. -/
lemma language_of_mem_sites {s : Surroundings} {o : Options} {p : Site} (h : p ∈ s.sites o) :
    p.file.language = Language.ofPath p.file.path := by
  obtain ⟨l, _, hp⟩ := List.mem_flatMap.mp h
  exact (mem_discover.mp (file_of_mem_sitesOf hp).1).2.2

/-! ## Leaving sites out -/

/-- Putting lists together for some items only. -/
lemma flatMap_filter {α β : Type} (p : α → Bool) (f : α → List β) :
    ∀ l : List α, (l.filter p).flatMap f = l.flatMap fun x => if p x then f x else []
  | [] => rfl
  | x :: l => by
      rw [List.flatMap_cons, ← flatMap_filter p f l]
      by_cases h : p x
      · rw [List.filter_cons_of_pos h, List.flatMap_cons, if_pos h]
      · rw [List.filter_cons_of_neg h, if_neg h, List.nil_append]

/-- **A report with fewer sites.**  One report discovers some of the files of another, serves some of
its languages, and finds some of the sites in each file; what is left of a file that is not discovered
or not served is nothing.  Then its sites are some of those of the other, in their order. -/
theorem sites_eq_filter {s s' : Surroundings} {o o' : Options} {q : Site → Bool}
    (someFiles : SourceFile → Bool) (someLanguages : Language → Bool)
    (hfiles : s'.discovered o' = (s.discovered o).filter someFiles)
    (hserves : ∀ l, s'.serves l = (s.serves l && someLanguages l))
    (hsites : ∀ f, (s.sitesIn o f).filter q
      = if someFiles f && someLanguages f.language then s'.sitesIn o' f else []) :
    s'.sites o' = (s.sites o).filter q := by
  rw [sites, sites, List.filter_flatMap]
  refine List.flatMap_congr fun l _ => ?_
  rw [sitesOf, sitesOf, hserves l, hfiles, List.filter_filter, flatMap_filter]
  cases s.serves l with
  | false => rfl
  | true =>
      rw [if_pos rfl, Bool.true_and, List.filter_flatMap, flatMap_filter]
      cases hl : someLanguages l with
      | false =>
          refine (List.flatMap_eq_nil_iff.mpr fun f _ => ?_).symm
          by_cases hlang : f.language = l
          · simp [hlang, hsites, hl]
          · simp [hlang]
      | true =>
          refine List.flatMap_congr fun f _ => ?_
          by_cases hlang : f.language = l
          · simp [hlang, hsites, hl]
          · simp [hlang]

/-! ## What the extractors find -/

/-- The extractor of a language after some files were dispatched: those that it takes, and the terms. -/
def supplied (s : Surroundings) (o : Options) (files : List SourceFile) (l : Language) : Extractor :=
  ⟨l, files.filter (Reporter.takes s l), o.excludeFunc⟩

/-- The extractor of a language after dispatch: its files, and the terms. -/
def equipped (s : Surroundings) (o : Options) (l : Language) : Extractor :=
  ⟨l, (s.discovered o).filter (Reporter.takes s l), o.excludeFunc⟩

/-- The sites of a language in some files, file by file. -/
def sitesAmong (s : Surroundings) (o : Options) (files : List SourceFile) (l : Language) : List Site :=
  if s.serves l then (files.filter (·.language = l)).flatMap (s.sitesIn o) else []

/-- The files that go to the extractor of a language that can be searched. -/
lemma takes_eq (s : Surroundings) {l : Language} (hl : l ∈ Language.searched) :
    Reporter.takes s l = fun f => decide (f.language = l) && !s.refused l := by
  have hne : l ≠ .unsupported := by
    rintro rfl
    simp [Language.searched] at hl
  funext f
  by_cases h : f.language = l
  · simp [Reporter.takes, h, hne]
  · simp [Reporter.takes, h]

/-- **The extractor of a language finds the sites in the files that it was given.** -/
lemma found_supplied (s : Surroundings) (o : Options) (files : List SourceFile) {l : Language}
    (hl : l ∈ Language.searched) :
    (s.supplied o files l).found s.workshop = (s.sitesAmong o files l).map Site.element := by
  have htakes := s.takes_eq hl
  have hfiles : ∀ f ∈ (s.supplied o files l).files, f.language = (s.supplied o files l).language := by
    intro f hf
    have := (List.mem_filter.mp hf).2
    simp only [htakes, Bool.and_eq_true, decide_eq_true_eq] at this
    exact this.1
  rw [Extractor.found_eq _ _ hfiles, sitesAmong, serves]
  cases hrefused : s.refused l with
  | true =>
      have hnone : (s.supplied o files l).files = [] := by simp [supplied, htakes, hrefused]
      simp [hnone]
  | false =>
      have hall : (s.supplied o files l).files = files.filter (·.language = l) := by
        simp [supplied, htakes, hrefused]
      have hlang : (s.supplied o files l).language = l := rfl
      rw [hall, hlang]
      cases s.workshop.broken l with
      | some reason => simp
      | none =>
          rw [if_neg (by simp), if_pos (by simp), List.map_flatMap]
          refine List.flatMap_congr fun f _ => ?_
          rw [sitesIn, List.map_map]
          rfl

/-- **The extractor of a language finds its sites.** -/
lemma found_equipped (s : Surroundings) (o : Options) {l : Language} (hl : l ∈ Language.searched) :
    (s.equipped o l).found s.workshop = (s.sitesOf o l).map Site.element :=
  s.found_supplied o (s.discovered o) hl

/-- **The extractors find the sites of the report.** -/
lemma flatMap_found (s : Surroundings) (o : Options) :
    (Language.searched.map (s.equipped o)).flatMap (fun x => x.found s.workshop)
      = (s.sites o).map Site.element := by
  rw [List.flatMap_map, sites, List.map_flatMap]
  exact List.flatMap_congr fun l hl => s.found_equipped o hl

/-! ## The rows of a report -/

/-- A batch of look-ups for sites succeeds when all calls can be launched. -/
lemma collect_score_eq_ok_iff (s : Surroundings) (o : Options) (ps : List Site) (rows : List Row) :
    FunctionChurn.collect ((ps.map Site.element).map fun e => (Reporter.score s o e).2) = .ok rows
      ↔ (∀ p ∈ ps, s.Answers o p) ∧ rows = ps.map (s.rowAt o) := by
  have hscore : ∀ (p : Site) (found : Row), (Reporter.score s o p.element).2 = .ok found
      ↔ s.Answers o p ∧ found = s.rowAt o p := by
    intro p found
    rw [Reporter.score_eq_ok_iff]
    constructor
    · rintro ⟨reply, hreply, rfl⟩
      have hcall : s.git (s.callAt o p.file.path p.shown) = .ok reply := hreply
      refine ⟨⟨reply, hreply⟩, ?_⟩
      simp only [rowAt, changesAt, hcall]
      rfl
    · rintro ⟨⟨reply, hreply⟩, rfl⟩
      refine ⟨reply, hreply, ?_⟩
      simp only [rowAt, changesAt, hreply]
      rfl
  rw [collect_eq_ok_iff]
  induction ps generalizing rows with
  | nil => cases rows <;> simp
  | cons p ps ih =>
      cases rows with
      | nil => simp
      | cons found rows =>
          simp only [List.map_cons, List.cons.injEq, hscore, ih, List.forall_mem_cons]
          constructor
          · rintro ⟨⟨ha, hb⟩, hc, hd⟩
            exact ⟨⟨ha, hc⟩, hb, hd⟩
          · rintro ⟨⟨ha, hc⟩, hb, hd⟩
            exact ⟨⟨ha, hb⟩, hc, hd⟩

/-- Dispatch and the terms supply the extractors of a fresh report. -/
lemma filterNames_dispatchAll_files (s : Surroundings) (o : Options) (files : List SourceFile) :
    Reporter.filterNames o.excludeFunc
        (Reporter.dispatchAll s o.verbosity (Language.searched.map fun l => { language := l })
          files).2
      = Language.searched.map (s.supplied o files) := by
  rw [Reporter.snd_dispatchAll _ _ _ _ (by decide), Reporter.filterNames, List.map_map,
    List.map_map]
  refine List.map_congr_left fun l _ => ?_
  simp [Reporter.foldl_filterName, supplied]

/-- Dispatch and the terms make the extractors of a fresh report those of its languages. -/
lemma filterNames_dispatchAll (s : Surroundings) (o : Options) :
    Reporter.filterNames o.excludeFunc
        (Reporter.dispatchAll s o.verbosity (Language.searched.map fun l => { language := l })
          (s.discovered o)).2
      = Language.searched.map (s.equipped o) :=
  s.filterNames_dispatchAll_files o (s.discovered o)

/-- **A report that can be prepared and finds files** is its look-ups. -/
lemma collected_of_ready {s : Surroundings} {o : Options} (hready : s.Ready o)
    (hfound : s.discovered o ≠ []) :
    (s.collected o).2
        = (Reporter.rowsOfAll s o (Language.searched.map (s.equipped o))).2.mapError .history
      ∧ (s.collected o).1.calls
        = (Reporter.inspector o).probeCall
          :: (Reporter.rowsOfAll s o (Language.searched.map (s.equipped o))).1.calls := by
  have hfiles : discover (Reporter.narrowed o {}) (s.listing o.root) = s.discovered o := rfl
  have hcalls := Reporter.calls_dispatchAll s o.verbosity (s.discovered o)
    (Language.searched.map fun l => { language := l })
  simp only [collected, Reporter.open_eq hready, Reporter.collect, hfiles, if_neg hfound,
    Reporter.collectFrom, filterNames_dispatchAll, Trace.calls_append, hcalls]
  constructor
  · cases (Reporter.rowsOfAll s o (Language.searched.map (s.equipped o))).2 <;> rfl
  · simp [Reporter.discoveryTrace, Trace.record]

/-- A report with rows could be prepared, and found files. -/
lemma ready_of_collected {s : Surroundings} {o : Options} {rows : List Row}
    (h : (s.collected o).2 = .ok rows) : s.Ready o ∧ s.discovered o ≠ [] := by
  unfold collected at h
  split at h
  · simp at h
  · next t r hopen =>
      have hready := Reporter.ready_of_open hopen
      refine ⟨hready, fun hnone => ?_⟩
      have hr := hopen.symm.trans (Reporter.open_eq hready)
      simp only [Prod.mk.injEq, Except.ok.injEq] at hr
      have hfiles : discover (Reporter.narrowed o {}) (s.listing o.root) = [] := hnone
      simp [hr.2, Reporter.collect, hfiles] at h

/-- **When there is a report, and what its rows are.**  It must be possible to prepare it, some file
must be left to inspect, and all calls must be launched; then it has one row for each site. -/
theorem collected_eq_ok_iff (s : Surroundings) (o : Options) (rows : List Row) :
    (s.collected o).2 = .ok rows
      ↔ s.Ready o ∧ s.discovered o ≠ [] ∧ (∀ p ∈ s.sites o, s.Answers o p)
        ∧ rows = (s.sites o).map (s.rowAt o) := by
  have hlookups : ∀ (hready : s.Ready o) (hfound : s.discovered o ≠ []),
      (s.collected o).2 = .ok rows
        ↔ (∀ p ∈ s.sites o, s.Answers o p) ∧ rows = (s.sites o).map (s.rowAt o) := by
    intro hready hfound
    rw [← collect_score_eq_ok_iff, (collected_of_ready hready hfound).1, Reporter.snd_rowsOfAll,
      flatMap_found]
    cases FunctionChurn.collect
      (((s.sites o).map Site.element).map fun e => (Reporter.score s o e).2) <;> simp [Except.mapError]
  constructor
  · intro h
    obtain ⟨hready, hfound⟩ := ready_of_collected h
    exact ⟨hready, hfound, (hlookups hready hfound).mp h⟩
  · rintro ⟨hready, hfound, hrows⟩
    exact (hlookups hready hfound).mpr hrows

/-- **The calls of a report with rows**: one to prepare it, and then one for each site, in order. -/
theorem calls_collected {s : Surroundings} {o : Options} {rows : List Row}
    (h : (s.collected o).2 = .ok rows) :
    (s.collected o).1.calls
      = (Reporter.inspector o).probeCall
        :: (s.sites o).map fun p => s.callAt o p.file.path p.shown := by
  obtain ⟨hready, hfound⟩ := ready_of_collected h
  obtain ⟨hrows, hcalls⟩ := collected_of_ready hready hfound
  rw [hrows] at h
  rw [hcalls]
  cases hall : (Reporter.rowsOfAll s o (Language.searched.map (s.equipped o))).2 with
  | error e => simp [hall, Except.mapError] at h
  | ok found =>
      rw [Reporter.calls_rowsOfAll s o _ hall, flatMap_found, List.map_map]
      rfl

/-! ## Reports that are not made -/

/-- A report that cannot be prepared asks once and gives no rows. -/
lemma collected_of_open_error {s : Surroundings} {o : Options} {e : ReportError}
    (h : (Reporter.open s o Language.searched).2 = .error e) :
    (s.collected o).2 = .error e
      ∧ (s.collected o).1.calls = [(Reporter.inspector o).probeCall] := by
  have hasked : (Reporter.open s o Language.searched).1.calls
      = [(Reporter.inspector o).probeCall] := by rw [Reporter.fst_open]
  rw [collected]
  split
  · next hopen =>
      rw [hopen] at h hasked
      rw [Except.error.inj h]
      exact ⟨rfl, hasked⟩
  · next hopen =>
      rw [hopen] at h
      simp at h

/-- A report that finds no files asks once and gives no rows. -/
lemma collected_of_none {s : Surroundings} {o : Options} (hready : s.Ready o) (hnone : s.discovered o = []) :
    (s.collected o).2 = .error .noFiles
      ∧ (s.collected o).1.calls = [(Reporter.inspector o).probeCall] := by
  have hfiles : discover (Reporter.narrowed o {}) (s.listing o.root) = [] := hnone
  simp only [collected, Reporter.open_eq hready, Reporter.collect, hfiles, if_true]
  exact ⟨trivial, rfl⟩

/-- A report with another window or none asks the same, and shows what was collected. -/
lemma report_eq (s : Surroundings) (o : Options) :
    (s.report o).2 = (s.collected o).2.map (Reporter.shown o)
      ∧ (s.report o).1.calls = (s.collected o).1.calls := by
  rw [report, collected]
  cases hopen : Reporter.open s o Language.searched with
  | mk t outcome =>
    cases outcome with
    | error e => exact ⟨rfl, rfl⟩
    | ok r =>
        have hoptions : r.options = o := by
          have hr := hopen.symm.trans (Reporter.open_eq (Reporter.ready_of_open hopen))
          simp only [Prod.mk.injEq, Except.ok.injEq] at hr
          rw [hr.2]
        simp only [Reporter.run, hoptions]
        exact ⟨trivial, trivial⟩

end Surroundings

/-! ## A small tree -/

namespace Sample

/-- A few source files. -/
def sources : List (String × String) :=
  [("./a.rs", "fn one() {}\nfn two() {}\n"),
   ("./b.go", "package b\n\nfunc (x *T) three() {}\nfunc four() {}\n"),
   ("./c.lua", "function five() end\n"),
   ("./d.rs", "fn six() {}\n"),
   ("./e.rs", "fn seven() {}\n")]

/-- What `git log` prints for a function that changed so often. -/
def history (count : Nat) : Bytes :=
  (List.replicate count (headerStart ++ List.replicate hashLength 'a' ++ ['\n'])).flatMap Utf8.encode

/-- A git program that knows of some changes. -/
def git : Git
  | ⟨[_, "log", "-L", range], _⟩ =>
      .ok ⟨0, history (([(":two:a.rs", 2), (":(*T) three:b.go", 1), (":five:c.lua", 2)].lookup
        range).getD 0)⟩
  | _ => .ok ⟨0, []⟩

/-- **The source files with the git program**, and a query of one pattern for each language. -/
def tree : Surroundings where
  listing _ := sources.map Prod.fst
  cwd := []
  workshop := {
    read := fun path => match sources.lookup path with
      | some text => .ok (Utf8.encode text.toList)
      | none => .error (.missing path)
    elapsed := "0.000" }
  supplies := {
    loader := fun _ => .working
    directory := "queries"
    queryFile := fun _ => .ok (Utf8.encode "(_) @name".toList)
    compile := fun _ => Query.compile }
  git := git

/-- The files that are found in the small tree. -/
def files : List SourceFile :=
  [⟨"./a.rs", .rust⟩, ⟨"./b.go", .go⟩, ⟨"./c.lua", .lua⟩, ⟨"./d.rs", .rust⟩, ⟨"./e.rs", .rust⟩]

/-- The rows of the small tree. -/
def rows : List Row :=
  [⟨"./b.go", 3, "(*T) three", 1⟩, ⟨"./b.go", 4, "four", 0⟩, ⟨"./a.rs", 1, "one", 0⟩,
    ⟨"./a.rs", 2, "two", 2⟩, ⟨"./d.rs", 1, "six", 0⟩, ⟨"./e.rs", 1, "seven", 0⟩,
    ⟨"./c.lua", 1, "five", 2⟩]

lemma ready_tree : tree.Ready {} := ⟨rfl, by decide +kernel⟩

lemma discovered_tree : tree.discovered {} = files := by
  have hfiles : (tree.listing ".").filterMap ({} : Filter).classify = files := by decide +kernel
  refine (discover_of_pairwise ?_).trans hfiles
  exact (congrArg (List.Pairwise fun a b : SourceFile => a.path ≤ b.path) hfiles).mpr
    (by decide +kernel)

/-- **The rows of the small tree are those of its report.** -/
theorem collected_tree : (tree.collected {}).2 = .ok rows := by
  refine (tree.collected_eq_ok_iff {} rows).mpr ⟨ready_tree, ?_, fun p _ => ⟨_, rfl⟩, ?_⟩
  · rw [discovered_tree]
    exact List.cons_ne_nil _ _
  · simp only [Surroundings.sites, Language.searched, List.flatMap_cons, List.flatMap_nil,
      Surroundings.sitesOf, discovered_tree]
    decide +kernel

end Sample

end FunctionChurn
