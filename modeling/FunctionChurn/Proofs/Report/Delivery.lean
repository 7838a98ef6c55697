import FunctionChurn.Proofs.Report.Ranking
import Mathlib.Data.List.Sort

/-!
# Files in another order

A file system promises no order in which it lists a directory, so the files of a report may be delivered in
any.  The rows that are collected then come in another order, and so do rows that changed equally often in the
ranking.  Only whole files change places, though, and what is read off the ranking stays.

* `Regrouped` says of two lists that only whole files have changed places.
* `Surroundings.regrouped_sites`: what a change of the order of the files does to the sites.
* `Reporter.runFrom` are the rows that are shown when the files come in a given order.
* **`Reporter.runFrom_perm`** compares two orders.
-/

namespace FunctionChurn

/-! ## Whole files change places -/

section

variable {α β : Type} {file : α → String}

/-- **Whether only whole files have changed places** from one list to another: the items are the same, and
those of each file stand in the same order. -/
structure Regrouped (file : α → String) (as bs : List α) : Prop where
  perm : as.Perm bs
  within : ∀ path, as.filter (file · = path) = bs.filter (file · = path)

lemma Regrouped.nil : Regrouped file [] [] := ⟨.nil, fun _ => rfl⟩

lemma Regrouped.append {as bs cs ds : List α} (h : Regrouped file as bs) (h' : Regrouped file cs ds) :
    Regrouped file (as ++ cs) (bs ++ ds) where
  perm := h.perm.append h'.perm
  within path := by rw [List.filter_append, List.filter_append, h.within, h'.within]

/-- What is done to every item within its file does not mix up the files. -/
lemma Regrouped.map {file' : β → String} {as bs : List α} (h : Regrouped file as bs) (f : α → β)
    (hf : ∀ a, file' (f a) = file a) : Regrouped file' (as.map f) (bs.map f) where
  perm := h.perm.map f
  within path := by
    have htest : (fun b => decide (file' b = path)) ∘ f = fun a => decide (file a = path) :=
      funext fun a => by rw [Function.comp_apply, hf]
    rw [List.filter_map, List.filter_map, htest, h.within]

/-- Lists that are put together from regrouped ones, one for each item. -/
lemma Regrouped.flatMap {f g : β → List α} :
    ∀ {bs : List β}, (∀ b ∈ bs, Regrouped file (f b) (g b)) → Regrouped file (bs.flatMap f) (bs.flatMap g)
  | [], _ => .nil
  | _ :: _, h =>
      (h _ List.mem_cons_self).append (Regrouped.flatMap fun b hb => h b (List.mem_cons_of_mem _ hb))

/-- **Sources of one language in another order.**  Two of the same path are the same file, so it does not matter
which of them comes first. -/
lemma regrouped_of_perm {files files' : List SourceFile} (h : files.Perm files') {l : Language}
    (hl : ∀ f ∈ files, f.language = l) : Regrouped SourceFile.path files files' where
  perm := h
  within path := by
    have hone : ∀ f ∈ files.filter (·.path = path), f = ⟨path, l⟩ := by
      intro f hf
      obtain ⟨hmem, hpath⟩ := List.mem_filter.mp hf
      rw [← of_decide_eq_true hpath, ← hl f hmem]
    have hcopies := List.eq_replicate_of_mem hone
    have hperm := (h.filter (·.path = path)).symm
    rw [hcopies] at hperm ⊢
    exact (List.perm_replicate.mp hperm).symm

/-- Lists that are put together file by file are regrouped as the files are. -/
lemma Regrouped.flatMap_files {items : SourceFile → List α}
    (hitems : ∀ f, ∀ a ∈ items f, file a = f.path) {files files' : List SourceFile}
    (h : Regrouped SourceFile.path files files') :
    Regrouped file (files.flatMap items) (files'.flatMap items) where
  perm := h.perm.flatMap_right items
  within path := by
    have hcut : ∀ fs : List SourceFile, (fs.flatMap items).filter (file · = path)
        = (fs.filter (·.path = path)).flatMap items := by
      intro fs
      rw [List.filter_flatMap, Surroundings.flatMap_filter]
      refine List.flatMap_congr fun f _ => ?_
      by_cases hpath : f.path = path
      · rw [if_pos (decide_eq_true hpath)]
        exact List.filter_eq_self.mpr fun a ha => decide_eq_true ((hitems f a ha).trans hpath)
      · rw [if_neg (by simpa using hpath)]
        exact List.filter_eq_nil_iff.mpr fun a ha => by rw [hitems f a ha]; simpa using hpath
    rw [hcut, hcut, h.within]

end

/-! ## Rankings of regrouped rows -/

/-- What is read off every item of a window is read off the window. -/
lemma map_window {α β : Type} (f : α → β) (start size : Int) (items : List α) :
    (window start size items).map f = window start size (items.map f) := by
  rw [window, window, List.map_drop, List.map_take, List.length_map]

/-- **How often functions changed** is the same column for the same rows in any order. -/
lemma map_freq_ranked {rows rows' : List Row} (h : rows.Perm rows') :
    (ranked rows).map Row.freq = (ranked rows').map Row.freq := by
  have hfalling : ∀ rows : List Row, ((ranked rows).map Row.freq).Pairwise fun a b => b ≤ a :=
    fun rows => List.pairwise_map.mpr (ranked_isRanking rows).falling
  have hperm : (ranked rows).Perm (ranked rows') :=
    ((ranked_isRanking rows).perm.trans h).trans (ranked_isRanking rows').perm.symm
  exact (hperm.map Row.freq).eq_of_pairwise (fun _ _ _ _ hab hba => Int.le_antisymm hba hab)
    (hfalling rows) (hfalling rows')

/-! ## The sites in files of another order -/

namespace Surroundings

variable (s : Surroundings) (o : Options)

/-- The sites in some files, language by language. -/
def sitesFrom (files : List SourceFile) : List Site := Language.searched.flatMap (s.sitesAmong o files)

/-- The rows of the sites in some files. -/
def rowsFrom (files : List SourceFile) : List Row := (s.sitesFrom o files).map (s.rowAt o)

/-- **A change of the order of the files** regroups the sites. -/
theorem regrouped_sites {files files' : List SourceFile} (h : files.Perm files') :
    Regrouped (fun p : Site => p.file.path) (s.sitesFrom o files) (s.sitesFrom o files') := by
  refine .flatMap fun l _ => ?_
  unfold sitesAmong
  split
  · refine .flatMap_files (fun f p hp => by rw [file_of_mem_sitesIn hp]) ?_
    exact regrouped_of_perm (h.filter _) fun f hf => of_decide_eq_true (List.mem_filter.mp hf).2
  · exact .nil

/-- It regroups their rows. -/
lemma regrouped_rows {files files' : List SourceFile} (h : files.Perm files') :
    Regrouped Row.file (s.rowsFrom o files) (s.rowsFrom o files') := by
  rw [rowsFrom, rowsFrom]
  exact (s.regrouped_sites o h).map (s.rowAt o) fun _ => rfl

end Surroundings

/-! ## Reports in another order -/

namespace Reporter

variable {s : Surroundings} {o : Options} {r : Reporter}

/-- **The rows that are shown** when the files come in a given order. -/
def runFrom (s : Surroundings) (r : Reporter) (files : List SourceFile) :
    Except ReportError (List Row) :=
  (r.collectFrom s files).2.2.map (shown r.options)

/-- The rows that are collected from some files do not depend on the window. -/
lemma collectFrom_page (s : Surroundings) (r : Reporter) (skip total : Int) (files : List SourceFile) :
    ((r.page skip total).collectFrom s files).2.2 = (r.collectFrom s files).2.2 := by
  simp only [collectFrom, page, rowsOfAll_page]
  rfl

/-- A page is a window on the ranking of the rows. -/
lemma runFrom_page (s : Surroundings) (r : Reporter) (skip total : Int) (files : List SourceFile) :
    (r.page skip total).runFrom s files
      = (r.collectFrom s files).2.2.map fun rows => window skip total (ranked rows) := by
  rw [runFrom, collectFrom_page]
  rfl

/-- A prepared reporter is fresh. -/
lemma eq_of_open (h : (Reporter.open s o Language.searched).2 = .ok r) :
    r = { options := o, extractors := Language.searched.map fun l => { language := l } } := by
  have hopen : Reporter.open s o Language.searched = (_, .ok r) := Prod.ext rfl h
  have hfresh := hopen.symm.trans (open_eq (ready_of_open hopen))
  exact Except.ok.inj (congrArg Prod.snd hfresh)

/-- **The rows from some files**, in the order in which they come: one for each site. -/
lemma collectFrom_eq_ok_iff (h : (Reporter.open s o Language.searched).2 = .ok r)
    (files : List SourceFile) (rows : List Row) :
    (r.collectFrom s files).2.2 = .ok rows
      ↔ (∀ p ∈ s.sitesFrom o files, s.Answers o p) ∧ rows = s.rowsFrom o files := by
  have hfound : (Language.searched.map (s.supplied o files)).flatMap (fun x => x.found s.workshop)
      = (s.sitesFrom o files).map Site.element := by
    rw [List.flatMap_map, Surroundings.sitesFrom, List.map_flatMap]
    exact List.flatMap_congr fun l hl => s.found_supplied o files hl
  rw [Surroundings.rowsFrom, ← s.collect_score_eq_ok_iff, ← hfound, ← snd_rowsOfAll, eq_of_open h]
  simp only [collectFrom, s.filterNames_dispatchAll_files]
  cases (rowsOfAll s o (Language.searched.map (s.supplied o files))).2 <;> simp

/-- A run that finds files is the run from the files that are discovered. -/
lemma run_eq_runFrom (h : (Reporter.open s o Language.searched).2 = .ok r)
    (hfound : s.discovered o ≠ []) : (r.run s).2.2 = r.runFrom s (s.discovered o) := by
  have hfiles : discover (narrowed r.options r.filter) (s.listing r.options.root)
      = s.discovered o := by
    rw [eq_of_open h]
    rfl
  simp only [run, collect, hfiles, if_neg hfound]
  rfl

/-- **A report does not depend on the order in which its files are delivered.**  The files that were discovered
come in two orders, and with the first a prepared reporter has rows to show.

1. The order in which they were discovered is one of the orders, if there are any files.
2. There are rows to show with both orders, on every page, and each page is cut from a ranking.
3. The two rankings hold the same rows.
4. Every page shows the same column of numbers, whatever rows stand next to them.
5. The rows of one file stand in the same order in both rankings, and so do those of them that changed equally
   often. -/
theorem runFrom_perm (hopen : (Reporter.open s o Language.searched).2 = .ok r)
    {files files' : List SourceFile} (hfiles : files.Perm (s.discovered o))
    (hfiles' : files'.Perm (s.discovered o)) {page : List Row} (h : r.runFrom s files = .ok page) :
    (s.discovered o ≠ [] → (r.run s).2.2 = r.runFrom s (s.discovered o))
    ∧ ∃ ranking ranking' : List Row,
      (∀ skip total, (r.page skip total).runFrom s files = .ok (window skip total ranking)
        ∧ (r.page skip total).runFrom s files' = .ok (window skip total ranking'))
      ∧ ranking.Perm ranking'
      ∧ (∀ skip total, (window skip total ranking).map Row.freq
          = (window skip total ranking').map Row.freq)
      ∧ ∀ path, ranking.filter (·.file = path) = ranking'.filter (·.file = path) := by
  have hperm := hfiles.trans hfiles'.symm
  obtain ⟨rows, hrows⟩ : ∃ rows, (r.collectFrom s files).2.2 = .ok rows := by
    rw [← failure?_eq_none_iff, ← failure?_map (shown r.options), ← runFrom, h, failure?_ok]
  obtain ⟨hanswers, rfl⟩ := (collectFrom_eq_ok_iff hopen _ _).mp hrows
  -- the same functions are asked about in both orders, so all of them are answered again
  have hrows' : (r.collectFrom s files').2.2 = .ok (s.rowsFrom o files') :=
    (collectFrom_eq_ok_iff hopen _ _).mpr
      ⟨fun p hp => hanswers p ((s.regrouped_sites o hperm).perm.mem_iff.mpr hp), rfl⟩
  have hregrouped := s.regrouped_rows o hperm
  refine ⟨run_eq_runFrom hopen, ranked (s.rowsFrom o files), ranked (s.rowsFrom o files'),
    fun skip total => ⟨?_, ?_⟩, ?_, fun skip total => ?_, fun path => ?_⟩
  · rw [runFrom_page, hrows]
    rfl
  · rw [runFrom_page, hrows']
    rfl
  · exact ((ranked_isRanking _).perm.trans hregrouped.perm).trans (ranked_isRanking _).perm.symm
  · rw [map_window, map_window, map_freq_ranked hregrouped.perm]
  · rw [filter_ranked, filter_ranked, hregrouped.within]

/-- When the files of the small tree are delivered from the last to the first, its seven rows show the same
numbers. -/
theorem runFrom_perm_tree : ∃ page : List Row,
    Sample.reporter.runFrom Sample.tree Sample.files.reverse = .ok page
    ∧ page.map Row.freq = [2, 2, 1, 0, 0, 0, 0] := by
  have hcollected : (Sample.reporter.collect Sample.tree).2.2 = .ok Sample.rows :=
    (Surroundings.collected_of_open Sample.open_reporter).symm.trans Sample.collected_tree
  have hpage := run_page Sample.tree Sample.reporter 0 50
  rw [hcollected, Except.map, Sample.ranked_rows] at hpage
  have hfound : Sample.tree.discovered {} ≠ [] := by
    rw [Sample.discovered_tree]
    exact List.cons_ne_nil _ _
  have hrun : Sample.reporter.runFrom Sample.tree (Sample.tree.discovered {}) = .ok Sample.ranking :=
    (run_eq_runFrom Sample.open_reporter hfound).symm.trans hpage
  rw [Sample.discovered_tree] at hrun
  have hfiles : Sample.files.Perm (Sample.tree.discovered {}) := by rw [Sample.discovered_tree]
  obtain ⟨-, ranking, ranking', hpages, -, hcolumn, -⟩ :=
    runFrom_perm Sample.open_reporter hfiles ((List.reverse_perm _).trans hfiles) hrun
  refine ⟨_, (hpages 0 50).2, ?_⟩
  rw [← hcolumn, Except.ok.inj ((hpages 0 50).1.symm.trans hrun)]
  rfl

end Reporter

end FunctionChurn
