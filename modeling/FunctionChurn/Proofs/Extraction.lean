import FunctionChurn.Proofs.Source.Definition

/-!
# What an extraction finds

An extractor finds, file by file, the functions that its files define, less those whose shown names
hold one of its terms.  The pass over the elements of all files together leaves no trace in the
answer (`Extractor.found_eq`), so a file contributes the same whatever stands beside it, and as much
as when it stands alone (`Extractor.found_singleton`).

* `Extractor.total_applyAll_updates`: the progress total grows by the number of functions that are
  found, because all that is folded away or dropped is taken back.
* **`Extractor.extract_append`** compares the extraction of two lists of files with that of one list.
-/

namespace FunctionChurn.Extractor

open Source

/-- The elements that an extraction gives; a refusal gives none. -/
def found (x : Extractor) (w : Workshop) : List Element :=
  match x.extract w with
  | .ok got => got.elements
  | .error _ => []

/-- Names are dropped by the terms that are known, however often and in whatever order they came. -/
lemma isFiltered_congr {x y : Extractor} (h : ∀ term, term ∈ x.filters ↔ term ∈ y.filters) (name : String) :
    x.isFiltered name = y.isFiltered name :=
  Bool.eq_iff_iff.mpr (by simp only [isFiltered, List.any_eq_true, h])

/-- The names of definitions are dropped like those of elements. -/
lemma filter_map_element (x : Extractor) (file : String) (ds : List Definition) :
    ((ds.map (Definition.element file)).filter fun e => !x.isFiltered e.name)
      = (ds.filter fun d => !x.isFiltered d.shown).map (Definition.element file) := by
  rw [List.filter_map]
  rfl

/-- **What the files of a language leave** is what each of them defines, less the dropped names. -/
theorem kept_survey (x : Extractor) (w : Workshop) (h : ∀ f ∈ x.files, f.language = x.language) :
    x.kept ((x.survey w).flatMap Surveyed.elements)
      = x.files.flatMap fun f =>
          ((w.definitions f).filter fun d => !x.isFiltered d.shown).map
            (Definition.element f.path) := by
  rw [kept, survey, w.shown_survey x.language x.files h, List.filter_flatMap]
  exact List.flatMap_congr fun f _ => x.filter_map_element f.path _

/-- **An extractor finds what its files define**, unless its grammar is broken. -/
theorem found_eq (x : Extractor) (w : Workshop) (h : ∀ f ∈ x.files, f.language = x.language) :
    x.found w
      = if (w.broken x.language).isSome then []
        else x.files.flatMap fun f =>
          ((w.definitions f).filter fun d => !x.isFiltered d.shown).map
            (Definition.element f.path) := by
  unfold found extract
  by_cases hfiles : x.files = []
  · simp [hfiles]
  · cases hbroken : w.broken x.language with
    | some reason => simp [hfiles]
    | none =>
        simp only [if_neg hfiles, Option.isSome_none, Bool.false_eq_true, if_false]
        exact x.kept_survey w h

/-- **What a file defines** is what an extractor without terms finds in it alone. -/
theorem found_singleton (w : Workshop) {f : SourceFile} (h : w.broken f.language = none) :
    found { language := f.language, files := [f] } w
      = (w.definitions f).map (Definition.element f.path) := by
  have hfile : ∀ g ∈ [f], g.language = f.language := by
    intro g hg
    rw [List.mem_singleton.mp hg]
  have hkept : ∀ name, isFiltered { language := f.language, files := [f] } name = false :=
    fun _ => rfl
  rw [found_eq _ w hfile]
  simp [h, hkept]

/-! ## The progress total -/

/-- The total after one message for each of so many matches. -/
lemma total_applyAll_replicate :
    ∀ (n : Nat) {p : Progress}, 0 ≤ p.total →
      (p.applyAll (List.replicate n (.total 1))).total = p.total + n
  | 0, p, _ => by simp [Progress.applyAll]
  | n + 1, p, h => by
      have hstep : (p.apply (.total 1)).total = p.total + 1 := by
        simp only [Progress.apply]
        omega
      have ih := total_applyAll_replicate n (p := p.apply (.total 1)) (by omega)
      rw [List.replicate_succ, Progress.applyAll, List.foldl_cons, ← Progress.applyAll, ih, hstep]
      omega

/-- An element that was found is folded into another, or shown. -/
lemma folded_add_length_shown (l : Language) (es : List Element) :
    folded l es + (shown l es).length = es.length := by
  cases l with
  | go =>
      have h := Receiver.length_joinWaiting none es
      simp only [folded, shown, Receiver.join]
      omega
  | _ => simp [folded, shown]

/-- An element that was found is lost or kept. -/
lemma lost_add_length_kept (x : Extractor) (es : List Element) :
    x.lost es + (x.kept es).length = es.length := by
  have hshown := folded_add_length_shown x.language es
  have hkept : (x.kept es).length ≤ (shown x.language es).length := List.length_filter_le _ _
  rw [lost]
  omega

/-- **The total grows by the number of elements that are kept.** -/
theorem total_applyAll_updates (x : Extractor) (es : List Element) {p : Progress}
    (h : 0 ≤ p.total) :
    (p.applyAll (x.updates es)).total = p.total + (x.kept es).length := by
  have hlost := x.lost_add_length_kept es
  have hmatches := total_applyAll_replicate es.length h
  rw [updates, Progress.applyAll_append]
  split
  · rw [Progress.applyAll, List.foldl_nil, hmatches]
    omega
  · rw [Progress.applyAll, List.foldl_cons, List.foldl_nil, Progress.apply, hmatches]
    dsimp only
    omega

/-- Nothing is said about how much is done. -/
lemma done_applyAll_updates (x : Extractor) (es : List Element) (p : Progress) :
    (p.applyAll (x.updates es)).done = p.done := by
  have htotals : ∀ us : List Progress.Update, (∀ u ∈ us, ∃ n, u = .total n) →
      ∀ p : Progress, (p.applyAll us).done = p.done := by
    intro us hus
    induction us with
    | nil => exact fun p => rfl
    | cons u us ih =>
        obtain ⟨⟨n, rfl⟩, hrest⟩ := List.forall_mem_cons.mp hus
        exact fun p => ih hrest (p.apply (.total n))
  refine htotals _ (fun u hu => ?_) p
  rw [updates, List.mem_append] at hu
  rcases hu with hfound | hback
  · exact ⟨1, List.eq_of_mem_replicate hfound⟩
  · split at hback
    · exact absurd hback List.not_mem_nil
    · exact ⟨_, List.mem_singleton.mp hback⟩

/-! ## What an extraction can come to -/

/-- **What an extraction can come to**: there are no files, or the grammar cannot be attached, or it gives what
is kept of the elements in the files. -/
lemma extract_cases (x : Extractor) (w : Workshop) :
    (x.files = [] ∧ x.extract w = .error .noFiles)
    ∨ (∃ reason, x.files ≠ [] ∧ w.broken x.language = some reason
      ∧ x.extract w = .error (.grammar x.language reason))
    ∨ (x.files ≠ [] ∧ w.broken x.language = none ∧ ∃ records,
      x.extract w = .ok ⟨x.kept ((x.survey w).flatMap Surveyed.elements), records,
        x.updates ((x.survey w).flatMap Surveyed.elements)⟩) := by
  rw [extract]
  by_cases hfiles : x.files = []
  · exact .inl ⟨hfiles, if_pos hfiles⟩
  · rw [if_neg hfiles]
    cases hbroken : w.broken x.language with
    | some reason => exact .inr (.inl ⟨reason, hfiles, rfl, rfl⟩)
    | none => exact .inr (.inr ⟨hfiles, rfl, _, rfl⟩)

/-- **Terms matter to an extraction**, not how often and in which order they came. -/
theorem extract_congr {x y : Extractor} (hlanguage : y.language = x.language) (hfiles : y.files = x.files)
    (hterms : ∀ term, term ∈ y.filters ↔ term ∈ x.filters) (w : Workshop) : y.extract w = x.extract w := by
  obtain ⟨l, fs, terms⟩ := x
  obtain ⟨l', fs', terms'⟩ := y
  obtain rfl : l' = l := hlanguage
  obtain rfl : fs' = fs := hfiles
  have hkept : ∀ es, kept ⟨l', fs', terms'⟩ es = kept ⟨l', fs', terms⟩ es := fun es => by
    simp only [kept, isFiltered_congr hterms]
  have hlost : ∀ es, lost ⟨l', fs', terms'⟩ es = lost ⟨l', fs', terms⟩ es := fun es => by
    rw [lost, lost, hkept]
  have hupdates : ∀ es, updates ⟨l', fs', terms'⟩ es = updates ⟨l', fs', terms⟩ es := fun es => by
    rw [updates, updates, hlost]
  simp only [extract, hkept, hupdates]
  rfl

/-- **One more term** drops the elements whose names hold it, and no others. -/
lemma kept_filterName (x : Extractor) (term : String) (es : List Element) :
    (x.filterName term).kept es = (x.kept es).filter fun e => !Text.contains e.name term := by
  have hdropped : ∀ e : Element, (!(x.filterName term).isFiltered e.name)
      = (!Text.contains e.name term && !x.isFiltered e.name) := fun e => by
    rw [isFiltered, filterName, List.any_append, List.any_cons, List.any_nil, Bool.or_false, Bool.not_or,
      Bool.and_comm]
    rfl
  rw [kept, kept, List.filter_filter]
  exact List.filter_congr fun e _ => hdropped e

/-- **The total goes up by what an extraction gives**, and the other number stays. -/
theorem applyAll_of_extract {x : Extractor} {w : Workshop} {got : Extraction} (hgot : x.extract w = .ok got)
    {p : Progress} (h : 0 ≤ p.total) :
    p.applyAll got.updates = ⟨p.total + got.elements.length, p.done⟩ := by
  rcases x.extract_cases w with ⟨-, heq⟩ | ⟨reason, -, -, heq⟩ | ⟨-, -, records, heq⟩ <;> rw [hgot] at heq
  · contradiction
  · contradiction
  · obtain rfl := Except.ok.inj heq
    rw [← x.total_applyAll_updates _ h, ← x.done_applyAll_updates _ p]

/-! ## One list of files after another -/

/-- **What an extraction comes to** if there are files and the grammar can be attached: the elements
are those that are found, and the total grows by their number. -/
lemma extract_eq_ok (x : Extractor) (w : Workshop) (hfiles : x.files ≠ [])
    (hbroken : w.broken x.language = none) :
    ∃ got, x.extract w = .ok got ∧ got.elements = x.found w
      ∧ ∀ p : Progress, 0 ≤ p.total →
        (p.applyAll got.updates).total = p.total + got.elements.length := by
  have hextract : x.extract w = .ok ⟨x.kept ((x.survey w).flatMap Surveyed.elements),
      (x.survey w).flatMap Surveyed.records ++ [x.timing w],
      x.updates ((x.survey w).flatMap Surveyed.elements)⟩ := by
    simp only [extract, if_neg hfiles, hbroken]
  refine ⟨_, hextract, ?_, fun p hp => x.total_applyAll_updates _ hp⟩
  rw [found, hextract]

/-- What is found in files of one language is found in each of them alone. -/
lemma found_eq_flatMap (w : Workshop) (l : Language) (terms : List String) {fs : List SourceFile}
    (hbroken : w.broken l = none) (h : ∀ f ∈ fs, f.language = l) :
    found ⟨l, fs, terms⟩ w = fs.flatMap fun f => found ⟨l, [f], terms⟩ w := by
  rw [found_eq _ w h]
  simp only [hbroken, Option.isSome_none, Bool.false_eq_true, if_false]
  refine List.flatMap_congr fun f hf => ?_
  have hone : ∀ g ∈ [f], g.language = l := by
    intro g hg
    rw [List.mem_singleton.mp hg]
    exact h f hf
  rw [found_eq _ w hone]
  simp [hbroken, isFiltered]

/-- **Extraction goes file by file.**  Two lists of files of one language are queued by extractors
with the same terms, and one list after the other by a third.

1. If the grammar cannot be attached, then all three refuse, for the same reason.
2. Otherwise all three give an answer.  The elements of the third are those of the first followed by
   those of the second, and the progress total grows by as much as for both of them together.
3. Each file gives what it gives alone, so no receiver list is ever joined to a function of another
   file. -/
theorem extract_append (w : Workshop) (l : Language) (terms : List String)
    (fs gs : List SourceFile) (hfs : fs ≠ []) (hgs : gs ≠ [])
    (h : ∀ f ∈ fs ++ gs, f.language = l) :
    (∀ reason, w.broken l = some reason → ∀ hs ∈ [fs, gs, fs ++ gs],
        extract ⟨l, hs, terms⟩ w = .error (.grammar l reason))
    ∧ (w.broken l = none → ∃ a b c : Extraction,
        extract ⟨l, fs, terms⟩ w = .ok a ∧ extract ⟨l, gs, terms⟩ w = .ok b
        ∧ extract ⟨l, fs ++ gs, terms⟩ w = .ok c
        ∧ c.elements = a.elements ++ b.elements
        ∧ (∀ p : Progress, 0 ≤ p.total →
            (p.applyAll c.updates).total - p.total
              = ((p.applyAll a.updates).total - p.total)
                + ((p.applyAll b.updates).total - p.total))
        ∧ c.elements = (fs ++ gs).flatMap fun f => found ⟨l, [f], terms⟩ w) := by
  have hboth : fs ++ gs ≠ [] := fun hnil => hfs (List.append_eq_nil_iff.mp hnil).1
  refine ⟨fun reason hbroken hs hmem => ?_, fun hbroken => ?_⟩
  · have hne : hs ≠ [] := by
      simp only [List.mem_cons, List.not_mem_nil, or_false] at hmem
      rcases hmem with rfl | rfl | rfl
      · exact hfs
      · exact hgs
      · exact hboth
    simp only [extract, if_neg hne, hbroken]
  · obtain ⟨a, ha, hafound, hatotal⟩ := extract_eq_ok ⟨l, fs, terms⟩ w hfs hbroken
    obtain ⟨b, hb, hbfound, hbtotal⟩ := extract_eq_ok ⟨l, gs, terms⟩ w hgs hbroken
    obtain ⟨c, hc, hcfound, hctotal⟩ := extract_eq_ok ⟨l, fs ++ gs, terms⟩ w hboth hbroken
    have hfiles := found_eq_flatMap w l terms hbroken h
    have hsum : c.elements = a.elements ++ b.elements := by
      rw [hcfound, hafound, hbfound, hfiles, List.flatMap_append,
        found_eq_flatMap w l terms hbroken fun f hf => h f (List.mem_append_left gs hf),
        found_eq_flatMap w l terms hbroken fun f hf => h f (List.mem_append_right fs hf)]
    refine ⟨a, b, c, ha, hb, hc, hsum, fun p hp => ?_, hcfound.trans hfiles⟩
    rw [hatotal p hp, hbtotal p hp, hctotal p hp, hsum, List.length_append]
    omega

/-- Three files of Go, of which the second is no text. -/
def bench : Workshop where
  read path :=
    if path = "a.go" then .ok (Utf8.encode "package a\nfunc (x *T) one() {}\n".toList)
    else if path = "b.go" then .ok [0xFF]
    else .ok (Utf8.encode "package c\nfunc two() {}\n".toList)
  elapsed := "0.000"

/-- A function behind a file that is no text stays without the receiver of the file before, and the progress
total grows by the two functions that are left. -/
theorem extract_append_bench : ∃ got,
    extract ⟨.go, [⟨"a.go", .go⟩, ⟨"b.go", .go⟩] ++ [⟨"c.go", .go⟩], ["three"]⟩ bench = .ok got
    ∧ got.elements = [⟨"(*T) one", "a.go", 2, 1⟩, ⟨"two", "c.go", 2, 1⟩]
    ∧ (({} : Progress).applyAll got.updates).total = 2 := by
  obtain ⟨a, b, got, ha, hb, hgot, -, htotal, hfiles⟩ :=
    (extract_append bench .go ["three"] [⟨"a.go", .go⟩, ⟨"b.go", .go⟩] [⟨"c.go", .go⟩]
      (by decide) (by decide) (by decide)).2 rfl
  refine ⟨got, hgot, hfiles.trans (by decide +kernel), ?_⟩
  -- each of the two lists gives one function
  have hone : ∀ fs ∈ [[⟨"a.go", .go⟩, ⟨"b.go", .go⟩], [(⟨"c.go", .go⟩ : SourceFile)]],
      (extract ⟨.go, fs, ["three"]⟩ bench).map (fun got => (({} : Progress).applyAll got.updates).total)
        = .ok 1 := by decide +kernel
  have hatotal := hone _ List.mem_cons_self
  have hbtotal := hone _ (List.mem_cons_of_mem _ List.mem_cons_self)
  rw [ha, Except.map, Except.ok.injEq] at hatotal
  rw [hb, Except.map, Except.ok.injEq] at hbtotal
  have hsum := htotal {} (Int.le_refl 0)
  rw [hatotal, hbtotal] at hsum
  exact Int.sub_eq_iff_eq_add.mp hsum

end FunctionChurn.Extractor
