import FunctionChurn.Proofs.Report.Delivery
import FunctionChurn.Proofs.Report.Progress

/-!
# A reporter that is used again

A reporter keeps what it was told.  When it collects again, every file is queued once more, and so is
every prefix and every term.  Files that are queued twice are searched twice; a prefix or a term that is
known twice does what it does alone.

* `copies` is a list so many times over.
* `Reporter.used` is a reporter that has collected so many times, `Reporter.used_eq` what it has kept.
* `Extractor.found_copies`: what is found in files that are queued so many times.
* `Reporter.Sends.applyAll`: by how much any counters go up.
* **`Reporter.collect_used`** is what a reporter collects that is used again.
-/

namespace FunctionChurn

/-! ## Lists so many times over -/

/-- **A list so many times over.** -/
def copies {α : Type} (n : Nat) (xs : List α) : List α := (List.replicate n xs).flatten

section copies

variable {α β : Type} (n : Nat) (xs : List α)

/-- One time more is one more behind the others. -/
lemma copies_succ : copies (n + 1) xs = copies n xs ++ xs := by
  rw [copies, List.replicate_succ', List.flatten_append, List.flatten_singleton]
  rfl

lemma copies_one : copies 1 xs = xs := List.append_nil xs

variable {n xs}

lemma mem_copies {x : α} : x ∈ copies n xs ↔ n ≠ 0 ∧ x ∈ xs := by
  simp [copies, List.mem_flatten]

variable (n xs)

lemma map_copies (f : α → β) : (copies n xs).map f = copies n (xs.map f) := by
  rw [copies, List.map_flatten, List.map_replicate]
  rfl

lemma flatMap_copies (f : α → List β) : (copies n xs).flatMap f = copies n (xs.flatMap f) := by
  rw [List.flatMap_def, map_copies, copies, copies, List.flatten_flatten, List.map_replicate]
  rfl

end copies

/-! ## Terms and files so many times over -/

/-- **Files that are queued so many times** are searched so many times, file by file in the order of the
queue. -/
theorem Extractor.found_copies (w : Workshop) (l : Language) {files : List SourceFile}
    (terms : List String) (h : ∀ f ∈ files, f.language = l) (n : Nat) :
    found ⟨l, copies (n + 1) files, copies (n + 1) terms⟩ w = copies (n + 1) (found ⟨l, files, terms⟩ w) := by
  have hall : ∀ f ∈ copies (n + 1) files, f.language = l := fun f hf => h f (mem_copies.mp hf).2
  have hterms : ∀ name, isFiltered ⟨l, copies (n + 1) files, copies (n + 1) terms⟩ name
      = isFiltered ⟨l, files, terms⟩ name :=
    isFiltered_congr fun term => mem_copies.trans (and_iff_right (Nat.succ_ne_zero n))
  rw [found_eq _ w hall, found_eq _ w h]
  simp only [hterms]
  split
  · simp [copies]
  · exact flatMap_copies _ _ _

namespace Reporter

/-! ## What is kept -/

/-- **A reporter that has collected so many times.** -/
def used (s : Surroundings) (r : Reporter) : Nat → Reporter
  | 0 => r
  | n + 1 => ((used s r n).collect s).2.1

/-- **A prepared reporter with all files, prefixes and terms so many times.** -/
def stocked (s : Surroundings) (o : Options) (n : Nat) : Reporter where
  options := o
  extractors := Language.searched.map fun l =>
    ⟨l, copies n ((s.discovered o).filter (takes s l)), copies n o.excludeFunc⟩
  filter := ⟨copies n (o.prefixes.map (Path.join o.root)), copies n o.invertMatch⟩

variable (s : Surroundings) (o : Options)

/-- The search for files is narrowed once more. -/
lemma narrowed_stocked (n : Nat) :
    narrowed o (stocked s o n).filter = (stocked s o (n + 1)).filter := by
  simp only [narrowed, stocked, copies_succ]

/-- The same files are found again. -/
lemma sought_stocked (n : Nat) : sought s (stocked s o n) = s.discovered o := by
  have hmem : ∀ {t : String} {ts : List String}, t ∈ copies (n + 1) ts ↔ t ∈ ts :=
    mem_copies.trans (and_iff_right (Nat.succ_ne_zero n))
  have hclassify : (narrowed o (stocked s o n).filter).classify = (narrowed o {}).classify := by
    rw [narrowed_stocked]
    exact Filter.classify_congr (fun _ => hmem) fun _ => hmem
  rw [Surroundings.discovered, discover, ← hclassify]
  rfl

/-- The files and the terms are queued once more. -/
lemma laden_stocked (n : Nat) : laden s (stocked s o n) = (stocked s o (n + 1)).extractors := by
  have hnodup : ((stocked s o n).extractors.map Extractor.language).Nodup := by
    simp only [stocked, List.map_map, Function.comp_def]
    decide
  rw [laden, sought_stocked, snd_dispatchAll _ _ _ _ hnodup, filterNames, List.map_map]
  simp only [stocked, List.map_map, Function.comp_def, foldl_filterName, copies_succ]

variable {s o}

/-- Collecting queues everything once more. -/
lemma collect_stocked (hfound : s.discovered o ≠ []) (n : Nat) :
    ((stocked s o n).collect s).2.1 = stocked s o (n + 1) := by
  have hfiles : discover (narrowed (stocked s o n).options (stocked s o n).filter)
      (s.listing (stocked s o n).options.root) = s.discovered o := sought_stocked s o n
  have hladen := laden_stocked s o n
  rw [laden, sought_stocked] at hladen
  unfold collect collectFrom
  dsimp only
  rw [hfiles, if_neg hfound, hladen]
  exact congrArg (fun f : Filter => { stocked s o (n + 1) with filter := f }) (narrowed_stocked s o n)

/-- **What a reporter has kept** that has collected so many times: everything, so many times. -/
theorem used_eq {r : Reporter} (hopen : (Reporter.open s o Language.searched).2 = .ok r)
    (hfound : s.discovered o ≠ []) : ∀ n, used s r n = stocked s o n
  | 0 => eq_of_open hopen
  | n + 1 => by rw [used, used_eq hopen hfound n, collect_stocked hfound]

/-! ## What is collected again -/

/-- The sites of a report, those of each language so many times. -/
def sitesAgain (s : Surroundings) (o : Options) (n : Nat) : List Site :=
  Language.searched.flatMap fun l => copies n (s.sitesOf o l)

/-- The extractors find the sites of each language so many times. -/
lemma flatMap_found_stocked (n : Nat) :
    (stocked s o (n + 1)).extractors.flatMap (fun x => x.found s.workshop)
      = (sitesAgain s o (n + 1)).map Site.element := by
  simp only [stocked]
  rw [List.flatMap_map, sitesAgain, List.map_flatMap]
  refine List.flatMap_congr fun l hl => ?_
  have hlanguage : ∀ f ∈ (s.discovered o).filter (takes s l), f.language = l := by
    intro f hf
    have htaken := (List.mem_filter.mp hf).2
    simp only [takes, Bool.and_eq_true, decide_eq_true_eq] at htaken
    exact htaken.1.1
  rw [Extractor.found_copies _ _ _ hlanguage, map_copies, ← s.found_equipped o hl]
  rfl

/-- **A reporter that has collected so many times collects a row for each site**, those of each language once
more than before. -/
lemma collect_stocked_eq_ok_iff (hfound : s.discovered o ≠ []) (n : Nat) (rows : List Row) :
    ((stocked s o n).collect s).2.2 = .ok rows
      ↔ (∀ p ∈ sitesAgain s o (n + 1), s.Answers o p)
        ∧ rows = (sitesAgain s o (n + 1)).map (s.rowAt o) := by
  have hsought : sought s (stocked s o n) ≠ [] := by rwa [sought_stocked]
  rw [← s.collect_score_eq_ok_iff, ← flatMap_found_stocked, (collect_of_sought hsought).2, laden_stocked,
    snd_rowsOfAll]
  simp only [stocked]
  cases FunctionChurn.collect _ <;> simp [Except.mapError]

/-! ## What is counted again -/

/-- So many look-ups count so much. -/
lemma applyAll_replicate_done (n : Nat) (p : Progress) :
    p.applyAll (List.replicate n (.done 1)) = ⟨p.total, p.done + n⟩ := by
  induction n generalizing p with
  | zero => rw [Int.ofNat_zero, Int.add_zero]; rfl
  | succ n ih =>
      rw [List.replicate_succ, Progress.applyAll, List.foldl_cons, ← Progress.applyAll, ih]
      simp only [Progress.apply, Int.natCast_succ, Int.add_assoc, Int.add_comm 1]

/-- The rows of several extractors are those of the first, and behind them those of the others. -/
lemma exists_of_rowsOfAll_cons {x : Extractor} {xs : List Extractor} {rows : List Row}
    (h : (rowsOfAll s o (x :: xs)).2 = .ok rows) :
    ∃ front back, (rowsOf s o x).2 = .ok front ∧ (rowsOfAll s o xs).2 = .ok back ∧ rows = front ++ back := by
  rw [snd_rowsOfAll_cons] at h
  cases hfront : (rowsOf s o x).2 with
  | error e => simp [hfront] at h
  | ok front =>
      rw [hfront] at h
      cases hback : (rowsOfAll s o xs).2 with
      | error e => simp [hback, Except.map] at h
      | ok back =>
          rw [hback] at h
          exact ⟨front, back, rfl, rfl, (Except.ok.inj h).symm⟩

/-- **By how much counters go up**, whatever they show before: a run with rows takes both up by their number,
in whatever order its look-ups end. -/
theorem Sends.applyAll {xs : List Extractor} {us : List Progress.Update} (h : Sends s o xs us) :
    ∀ {rows : List Row}, (rowsOfAll s o xs).2 = .ok rows → ∀ {p : Progress}, 0 ≤ p.total →
      p.applyAll us = ⟨p.total + rows.length, p.done + rows.length⟩ := by
  induction h with
  | nil =>
      intro rows hrows p _
      obtain rfl : [] = rows := Except.ok.inj hrows
      rw [List.length_nil, Int.ofNat_zero, Int.add_zero, Int.add_zero]
      rfl
  | @refused x xs reason us refusal rest ih =>
      intro rows hrows
      obtain ⟨front, back, hfront, hback, rfl⟩ := exists_of_rowsOfAll_cons hrows
      rw [snd_rowsOf_of_refusal o refusal] at hfront
      obtain rfl : [] = front := Except.ok.inj hfront
      exact ih hback
  | @stopped x xs got order failure extracted ended failed =>
      intro rows hrows
      obtain ⟨front, back, hfront, -, -⟩ := exists_of_rowsOfAll_cons hrows
      rw [snd_rowsOf_of_extract o extracted, failed] at hfront
      contradiction
  | @scored x xs got order found us extracted ended succeeded rest ih =>
      intro rows hrows p hp
      obtain ⟨front, back, hfront, hback, rfl⟩ := exists_of_rowsOfAll_cons hrows
      rw [snd_rowsOf_of_extract o extracted, succeeded] at hfront
      obtain rfl : found = front := Except.ok.inj hfront
      obtain ⟨hlength, hall⟩ := countP_of_collect succeeded
      have hgrown : 0 ≤ p.total + got.elements.length := Int.add_nonneg hp (Int.natCast_nonneg _)
      rw [Progress.applyAll_append, Progress.applyAll_append, Extractor.applyAll_of_extract extracted hp,
        reports_eq, ended.countP_eq, hall, applyAll_replicate_done, ih hback hgrown, List.length_append,
        hlength]
      simp only [Int.natCast_add, Int.add_assoc]

/-! ## Collecting again -/

/-- The sites of a language are those whose paths are in it. -/
lemma filter_sitesOf (s : Surroundings) (o : Options) (k l : Language) :
    (s.sitesOf o k).filter (fun p => Language.ofPath p.file.path = l)
      = if k = l then s.sitesOf o k else [] := by
  have hlanguage : ∀ p ∈ s.sitesOf o k, Language.ofPath p.file.path = k := fun p hp => by
    obtain ⟨hfound, hfile⟩ := Surroundings.file_of_mem_sitesOf hp
    rw [← hfile, (mem_discover.mp hfound).2.2]
  split
  · next heq =>
      refine List.filter_eq_self.mpr fun p hp => ?_
      rw [hlanguage p hp]
      exact decide_eq_true heq
  · next hne =>
      refine List.filter_eq_nil_iff.mpr fun p hp => ?_
      rw [hlanguage p hp, decide_eq_true_eq]
      exact hne

/-- The rows of a language are those whose files are in it. -/
lemma filter_rows_sites (s : Surroundings) (o : Options) {l : Language} (hl : l ∈ Language.searched) :
    ((s.sites o).map (s.rowAt o)).filter (fun row => Language.ofPath row.file = l)
      = (s.sitesOf o l).map (s.rowAt o) := by
  have hfile : ∀ p, (s.rowAt o p).file = p.file.path := fun _ => rfl
  have hone : Language.searched.filter (fun k => k = l) = [l] := by
    revert hl
    cases l <;> decide
  rw [List.filter_map, Surroundings.sites, List.filter_flatMap]
  simp only [Function.comp_def, hfile, filter_sitesOf]
  have hpick := Surroundings.flatMap_filter (fun k => decide (k = l)) (s.sitesOf o) Language.searched
  simp only [decide_eq_true_eq] at hpick
  rw [← hpick, hone, List.flatMap_cons, List.flatMap_nil, List.append_nil]

/-- **A reporter that is used again.**  A reporter that was prepared collects rows.

1. They come language by language, those of a language being the rows whose files are in it.
2. When it has collected so many times over the same tree with the same git program, then it collects rows
   again: for each language the same block as at first, so many times and once more.
3. Whatever counters show before, both go up by the number of rows that are collected, in whatever order the
   look-ups end. -/
theorem collect_used {r : Reporter} (hopen : (Reporter.open s o Language.searched).2 = .ok r)
    {rows : List Row} (h : (r.collect s).2.2 = .ok rows) :
    (rows = Language.searched.flatMap fun l => rows.filter fun row => Language.ofPath row.file = l)
    ∧ ∀ n, ∃ again, ((used s r n).collect s).2.2 = .ok again
      ∧ (again = Language.searched.flatMap fun l =>
          copies (n + 1) (rows.filter fun row => Language.ofPath row.file = l))
      ∧ (used s r n).MaySend s ((used s r n).collect s).1.updates
      ∧ ∀ us, (used s r n).MaySend s us → ∀ p : Progress, 0 ≤ p.total →
          p.applyAll us = ⟨p.total + again.length, p.done + again.length⟩ := by
  have hcollected : (s.collected o).2 = .ok rows := (Surroundings.collected_of_open hopen).trans h
  obtain ⟨-, hfound, hanswers, heq⟩ := (s.collected_eq_ok_iff o rows).mp hcollected
  have hblock : ∀ l ∈ Language.searched,
      rows.filter (fun row => Language.ofPath row.file = l) = (s.sitesOf o l).map (s.rowAt o) := by
    rw [heq]
    exact fun l => filter_rows_sites s o
  have hagain : ∀ n, ((used s r n).collect s).2.2
      = .ok (Language.searched.flatMap fun l =>
          copies (n + 1) (rows.filter fun row => Language.ofPath row.file = l)) := by
    intro n
    rw [used_eq hopen hfound, collect_stocked_eq_ok_iff hfound]
    constructor
    · intro p hp
      obtain ⟨l, hl, hp⟩ := List.mem_flatMap.mp hp
      exact hanswers p (List.mem_flatMap.mpr ⟨l, hl, (mem_copies.mp hp).2⟩)
    · rw [sitesAgain, List.map_flatMap]
      refine List.flatMap_congr fun l hl => ?_
      rw [hblock l hl, map_copies]
  refine ⟨?_, fun n => ⟨_, hagain n, rfl, maySend_collect s _, fun us hsent p hp => ?_⟩⟩
  · -- the first time is the case of none before
    have hfirst := hagain 0
    simp only [used, Nat.zero_add, copies_one] at hfirst
    exact Except.ok.inj (h.symm.trans hfirst)
  · have hsought : sought s (used s r n) ≠ [] := by
      rw [used_eq hopen hfound, sought_stocked]
      exact hfound
    have hrows := hagain n
    rw [MaySend, if_neg hsought] at hsent
    rw [(collect_of_sought hsought).2] at hrows
    cases hall : (rowsOfAll s (used s r n).options (laden s (used s r n))).2 with
    | error e => simp [hall, Except.mapError] at hrows
    | ok found =>
        rw [hall] at hrows
        rw [← Except.ok.inj hrows]
        exact hsent.applyAll hall hp

/-- When the reporter for the small tree collects for the second time, it finds the two functions of Go twice,
then those of Rust, then that of Lua, and counts fourteen more. -/
theorem collect_used_reporter : ∃ again,
    ((used Sample.tree Sample.reporter 1).collect Sample.tree).2.2 = .ok again
    ∧ again.map Row.name = ["(*T) three", "four", "(*T) three", "four", "one", "two", "six", "seven",
        "one", "two", "six", "seven", "five", "five"]
    ∧ Progress.applyAll ⟨7, 7⟩ ((used Sample.tree Sample.reporter 1).collect Sample.tree).1.updates
        = ⟨21, 21⟩ := by
  have hrows : (Sample.reporter.collect Sample.tree).2.2 = .ok Sample.rows :=
    (Surroundings.collected_of_open Sample.open_reporter).symm.trans Sample.collected_tree
  obtain ⟨again, hagain, heq, hsent, hcounts⟩ := (collect_used Sample.open_reporter hrows).2 1
  have hnames : again.map Row.name = ["(*T) three", "four", "(*T) three", "four", "one", "two", "six",
      "seven", "one", "two", "six", "seven", "five", "five"] := by
    rw [heq]
    decide +kernel
  refine ⟨again, hagain, hnames, (hcounts _ hsent ⟨7, 7⟩ (by decide)).trans ?_⟩
  have hlength := congrArg List.length hnames
  rw [List.length_map] at hlength
  rw [hlength]
  rfl

end Reporter

end FunctionChurn
