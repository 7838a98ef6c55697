import FunctionChurn.Proofs.Extraction

/-!
# An extractor in use

Files are queued, terms are made known and functions are asked for in any order, while somebody watches the
counters.  Meanwhile files are written, changed and removed, and grammars break and are mended.  An
extraction looks at the files as they are when it is asked for, so nothing of an earlier one may be left in
the extractor.

* `ExtractorCall` is a call, `ExtractorAnswer` what it gives.
* `Watched` is an extractor with the counters that it tells; `Watched.perform` is a call and `Watched.run`
  calls one after the other.
* `Watched.perform_extract_cases`: what asking for functions can come to.
* `Watched.InOrder` holds at all times, `Watched.InOrder.perform` is that a call keeps it.
* **`Watched.run_session`** is what holds after any calls.
-/

namespace FunctionChurn

/-! ## Calls -/

/-- **A call.** -/
inductive ExtractorCall where
  | add (f : SourceFile)
  | filterName (term : String)
  | extract
  deriving DecidableEq, Repr

/-- What a call gives. -/
inductive ExtractorAnswer where
  | accepted (f : SourceFile)
  | noted (term : String)
  | found (es : List Element)
  | refused (e : ExtractError)
  deriving DecidableEq, Repr

namespace ExtractorAnswer

/-- The file that was accepted. -/
def file? : ExtractorAnswer → Option SourceFile
  | accepted f => some f
  | _ => none

/-- The term that was noted. -/
def term? : ExtractorAnswer → Option String
  | noted term => some term
  | _ => none

end ExtractorAnswer

/-- The file that a call would have queued. -/
def ExtractorCall.file? : ExtractorCall → Option SourceFile
  | add f => some f
  | _ => none

/-- **An extractor that is watched**, with the counters that it tells. -/
structure Watched where
  extractor : Extractor
  counters : Progress := {}
  deriving DecidableEq, Repr

namespace Watched

/-- **A call**: what it gives, and what it leaves.  A call that is refused leaves all as it was. -/
def perform (u : Watched) (w : Workshop) : ExtractorCall → ExtractorAnswer × Watched
  | .add f =>
      match u.extractor.add f with
      | .ok x => (.accepted f, { u with extractor := x })
      | .error e => (.refused e, u)
  | .filterName term => (.noted term, { u with extractor := u.extractor.filterName term })
  | .extract =>
      match u.extractor.extract w with
      | .ok got => (.found got.elements, { u with counters := u.counters.applyAll got.updates })
      | .error e => (.refused e, u)

/-- **Calls one after the other**, each with the files and grammars that it meets. -/
def run (u : Watched) : List (Workshop × ExtractorCall) → List ExtractorAnswer × Watched
  | [] => ([], u)
  | (w, c) :: calls =>
      let (a, v) := u.perform w c
      let (as, z) := v.run calls
      (a :: as, z)

variable {u v : Watched} {w w' : Workshop} {l : Language}

/-! ## What a call comes to -/

/-- **What queueing a file comes to**, by its language. -/
lemma perform_add (u : Watched) (w : Workshop) (f : SourceFile) :
    u.perform w (.add f)
      = if f.language = u.extractor.language then
          (.accepted f, { u with extractor := { u.extractor with files := u.extractor.files ++ [f] } })
        else (.refused (.notCompatible f.path), u) := by
  rw [perform, Extractor.add, Extractor.supports]
  by_cases h : f.language = u.extractor.language
  · simp only [h, decide_true, if_true]
  · simp only [h, decide_false, Bool.false_eq_true, if_false]

/-- **What asking for functions can come to**: a refusal, or what is kept of the elements in the files. -/
lemma perform_extract_cases (u : Watched) (w : Workshop) :
    (u.extractor.files = [] ∧ u.perform w .extract = (.refused .noFiles, u))
    ∨ (∃ reason, w.broken u.extractor.language = some reason
      ∧ u.perform w .extract = (.refused (.grammar u.extractor.language reason), u))
    ∨ (u.extractor.files ≠ [] ∧ w.broken u.extractor.language = none
      ∧ let es := (u.extractor.survey w).flatMap Surveyed.elements
        u.perform w .extract
          = (.found (u.extractor.kept es),
              { u with counters := u.counters.applyAll (u.extractor.updates es) })) := by
  simp only [perform]
  rcases u.extractor.extract_cases w with
    ⟨hfiles, heq⟩ | ⟨reason, -, hbroken, heq⟩ | ⟨hfiles, hbroken, records, heq⟩ <;> rw [heq]
  · exact .inl ⟨hfiles, rfl⟩
  · exact .inr (.inl ⟨reason, hbroken, rfl⟩)
  · exact .inr (.inr ⟨hfiles, hbroken, rfl⟩)

/-- **What functions were found** are those that are kept, and the counters were told of them. -/
lemma perform_extract_found {es : List Element} (h : (u.perform w .extract).1 = .found es) :
    u.extractor.files ≠ [] ∧ w.broken u.extractor.language = none
    ∧ es = u.extractor.kept ((u.extractor.survey w).flatMap Surveyed.elements)
    ∧ (u.perform w .extract).2.counters
      = u.counters.applyAll
          (u.extractor.updates ((u.extractor.survey w).flatMap Surveyed.elements)) := by
  rcases u.perform_extract_cases w with ⟨-, heq⟩ | ⟨reason, -, heq⟩ | ⟨hfiles, hbroken, heq⟩ <;>
    rw [heq] at h ⊢
  · contradiction
  · contradiction
  · exact ⟨hfiles, hbroken, (ExtractorAnswer.found.inj h).symm, rfl⟩

/-- Asking for functions does not change the extractor. -/
lemma extractor_perform_extract (u : Watched) (w : Workshop) :
    (u.perform w .extract).2.extractor = u.extractor := by
  rcases u.perform_extract_cases w with ⟨-, heq⟩ | ⟨reason, -, heq⟩ | ⟨-, -, heq⟩ <;> rw [heq]

/-- **A call that is refused leaves all as it was.** -/
lemma perform_refused {c : ExtractorCall} {e : ExtractError} (h : (u.perform w c).1 = .refused e) :
    (u.perform w c).2 = u := by
  cases c with
  | add f =>
      rw [perform_add] at h ⊢
      split at h
      · contradiction
      · next hother => rw [if_neg hother]
  | filterName term => contradiction
  | extract =>
      rcases u.perform_extract_cases w with ⟨-, heq⟩ | ⟨reason, -, heq⟩ | ⟨-, -, heq⟩ <;> rw [heq] at h ⊢
      contradiction

/-! ## What matters to an extraction -/

/-- What is found does not depend on what the counters show. -/
lemma fst_perform_extract (h : v.extractor.extract w = u.extractor.extract w) :
    (v.perform w .extract).1 = (u.perform w .extract).1 := by
  simp only [perform, h]
  cases u.extractor.extract w <;> rfl

/-- **What matters to an extraction** are the files and terms of the extractor and the contents of the files,
if texts are parsed alike. -/
lemma found_congr {es es' : List Element} (h : v.extractor = u.extractor)
    (hread : ∀ f ∈ u.extractor.files, w'.read f.path = w.read f.path)
    (hparse : ∀ f ∈ u.extractor.files, w'.treeless f.language = w.treeless f.language)
    (hu : (u.perform w .extract).1 = .found es) (hv : (v.perform w' .extract).1 = .found es') :
    es' = es := by
  have hsurvey : u.extractor.survey w' = u.extractor.survey w :=
    List.map_congr_left fun f hf => by simp only [Surveyed.ofFile, hread f hf, hparse f hf]
  obtain ⟨-, -, hes, -⟩ := perform_extract_found hu
  obtain ⟨-, -, hes', -⟩ := perform_extract_found hv
  rw [hes', hes, h, hsurvey]

/-- **One more term** takes away what it names from what is found. -/
lemma found_filterName {es : List Element} (term : String) (w' : Workshop)
    (h : (u.perform w .extract).1 = .found es) :
    ((u.perform w' (.filterName term)).2.perform w .extract).1
      = .found (es.filter fun e => !Text.contains e.name term) := by
  obtain ⟨hfiles, hbroken, rfl, -⟩ := perform_extract_found h
  rcases (u.perform w' (.filterName term)).2.perform_extract_cases w with
    ⟨hnone, -⟩ | ⟨reason, hreason, -⟩ | ⟨-, -, heq⟩
  · exact absurd hnone hfiles
  · exact absurd (hbroken.symm.trans hreason) (Option.some_ne_none reason).symm
  · rw [heq]
    exact congrArg ExtractorAnswer.found (u.extractor.kept_filterName term _)

/-! ## What is so at all times -/

/-- **What is so at all times**: the queued files are of the extractor's language, and the total is not
below zero. -/
structure InOrder (l : Language) (u : Watched) : Prop where
  language : u.extractor.language = l
  files : ∀ f ∈ u.extractor.files, f.language = l
  total : 0 ≤ u.counters.total

namespace InOrder

/-- What is found is counted, and nothing else. -/
lemma counters {es : List Element} (hu : u.InOrder l) (h : (u.perform w .extract).1 = .found es) :
    (u.perform w .extract).2.counters = ⟨u.counters.total + es.length, u.counters.done⟩ := by
  obtain ⟨-, -, hes, hcounters⟩ := perform_extract_found h
  rw [hcounters, hes, ← u.extractor.total_applyAll_updates _ hu.total,
    ← u.extractor.done_applyAll_updates _ u.counters]

/-- **A call keeps it.** -/
lemma perform (hu : u.InOrder l) (w : Workshop) (c : ExtractorCall) : (u.perform w c).2.InOrder l := by
  cases c with
  | add f =>
      rw [perform_add]
      split
      · next hown =>
          refine ⟨hu.language, fun g hg => ?_, hu.total⟩
          rcases List.mem_append.mp hg with hold | hnew
          · exact hu.files g hold
          · rw [List.mem_singleton.mp hnew, hown, hu.language]
      · exact hu
  | filterName term => exact ⟨hu.language, hu.files, hu.total⟩
  | extract =>
      have hextractor := u.extractor_perform_extract w
      refine ⟨hextractor ▸ hu.language, hextractor ▸ hu.files, ?_⟩
      cases hanswer : (u.perform w .extract).1 with
      | found es =>
          rw [hu.counters hanswer]
          exact Int.add_nonneg hu.total (Int.natCast_nonneg _)
      | refused e =>
          rw [perform_refused hanswer]
          exact hu.total
      | accepted f | noted term =>
          rcases u.perform_extract_cases w with ⟨-, heq⟩ | ⟨reason, -, heq⟩ | ⟨-, -, heq⟩ <;>
            rw [heq] at hanswer <;> contradiction

end InOrder

/-! ## What is queued -/

/-- **What a call adds**: the file that it accepts, or the term that it notes. -/
lemma extractor_perform (u : Watched) (w : Workshop) (c : ExtractorCall) :
    (u.perform w c).2.extractor
      = { u.extractor with
          files := u.extractor.files ++ (u.perform w c).1.file?.toList
          filters := u.extractor.filters ++ (u.perform w c).1.term?.toList } := by
  have hnone : u.extractor = { u.extractor with
      files := u.extractor.files ++ [], filters := u.extractor.filters ++ [] } := by
    rw [List.append_nil, List.append_nil]
  cases c with
  | add f =>
      rw [perform_add]
      split
      · simp [ExtractorAnswer.file?, ExtractorAnswer.term?]
      · exact hnone
  | filterName term => simp [perform, Extractor.filterName, ExtractorAnswer.file?, ExtractorAnswer.term?]
  | extract =>
      rcases u.perform_extract_cases w with ⟨-, heq⟩ | ⟨reason, -, heq⟩ | ⟨-, -, heq⟩ <;> rw [heq] <;>
        exact hnone

/-- A call accepts the file that it is about, if that is of the extractor's language. -/
lemma file?_perform (u : Watched) (w : Workshop) (c : ExtractorCall) :
    (u.perform w c).1.file? = c.file?.filter (·.language = u.extractor.language) := by
  cases c with
  | add f =>
      rw [perform_add]
      by_cases h : f.language = u.extractor.language
      · simp [h, ExtractorAnswer.file?, ExtractorCall.file?, Option.filter]
      · simp [h, ExtractorAnswer.file?, ExtractorCall.file?, Option.filter]
  | filterName term => rfl
  | extract =>
      rcases u.perform_extract_cases w with ⟨-, heq⟩ | ⟨reason, -, heq⟩ | ⟨-, -, heq⟩ <;> rw [heq] <;> rfl

/-- **What is queued after some calls**: what was queued before, and behind it what they accepted. -/
theorem extractor_run : ∀ (u : Watched) (calls : List (Workshop × ExtractorCall)),
    (u.run calls).2.extractor
      = { u.extractor with
          files := u.extractor.files ++ (u.run calls).1.filterMap ExtractorAnswer.file?
          filters := u.extractor.filters ++ (u.run calls).1.filterMap ExtractorAnswer.term? }
  | u, [] => by simp [run]
  | u, (w, c) :: calls => by
      have hbehind : ∀ {α β : Type} (f : α → Option β) (a : α) (as : List α),
          (a :: as).filterMap f = (f a).toList ++ as.filterMap f := fun f a as => by
        cases h : f a <;> simp [h]
      simp only [run, extractor_run _ calls, u.extractor_perform w c, hbehind, List.append_assoc]

/-- The files that some calls accept are those of the extractor's language, in the order of the calls. -/
lemma filterMap_file?_run : ∀ (u : Watched) (calls : List (Workshop × ExtractorCall)),
    (u.run calls).1.filterMap ExtractorAnswer.file?
      = (calls.filterMap fun call => call.2.file?).filter (·.language = u.extractor.language)
  | u, [] => rfl
  | u, (w, c) :: calls => by
      have hlanguage : (u.perform w c).2.extractor.language = u.extractor.language := by
        rw [u.extractor_perform w c]
      have ih := filterMap_file?_run (u.perform w c).2 calls
      rw [hlanguage] at ih
      simp only [run, List.filterMap_cons, file?_perform, ih]
      cases c.file? with
      | none => rfl
      | some f =>
          by_cases h : f.language = u.extractor.language
          · simp [h, Option.filter]
          · simp [h, Option.filter]

/-- Any calls keep what is so at all times. -/
lemma InOrder.run : ∀ {u : Watched}, u.InOrder l → ∀ calls, (u.run calls).2.InOrder l
  | _, hu, [] => hu
  | _, hu, (w, c) :: calls => InOrder.run (hu.perform w c) calls

/-! ## After any calls -/

/-- **An extractor in use.**  After any calls, each with files of its own,

1. the queued files are those that were accepted, in the order of the calls, and these are the files of the
   extractor's language; the terms are those that were noted;
2. a file of another language is refused, and no other file;
3. functions are found if a file was accepted and the grammar can be attached, and otherwise refused;
4. a call that is refused leaves the extractor and the counters as they were;
5. asking for functions leaves the extractor as it was;
6. what is found depends on the queued files and their contents and on the terms, whatever is counted and was
   found before, if texts are parsed alike; so asking again gives the same;
7. what is found is added to the total, and no more is done than before;
8. terms may be noted in any order and as often as one likes;
9. one more term takes away exactly the functions whose shown names hold it. -/
theorem run_session {p : Progress} {calls : List (Workshop × ExtractorCall)} {answers : List ExtractorAnswer}
    (hp : 0 ≤ p.total) (h : run ⟨{ language := l }, p⟩ calls = (answers, u)) :
    (u.extractor.files = answers.filterMap ExtractorAnswer.file?
      ∧ u.extractor.files = (calls.filterMap fun call => call.2.file?).filter (·.language = l)
      ∧ u.extractor.filters = answers.filterMap ExtractorAnswer.term?)
    ∧ (∀ w f, (u.perform w (.add f)).1
        = if f.language = l then .accepted f else .refused (.notCompatible f.path))
    ∧ ((∀ w, (∃ es, (u.perform w .extract).1 = .found es) ↔ u.extractor.files ≠ [] ∧ w.broken l = none)
        ∧ ∀ w e, (u.perform w .extract).1 = .refused e →
          u.extractor.files = [] ∧ e = .noFiles ∨ ∃ reason, w.broken l = some reason ∧ e = .grammar l reason)
    ∧ (∀ w c e, (u.perform w c).1 = .refused e → (u.perform w c).2 = u)
    ∧ (∀ w, (u.perform w .extract).2.extractor = u.extractor)
    ∧ ((∀ (w w' : Workshop) (v : Watched) (es es' : List Element), v.extractor = u.extractor →
          (∀ f ∈ u.extractor.files, w'.read f.path = w.read f.path) → w'.treeless l = w.treeless l →
          (u.perform w .extract).1 = .found es → (v.perform w' .extract).1 = .found es' → es' = es)
        ∧ ∀ w, ((u.perform w .extract).2.perform w .extract).1 = (u.perform w .extract).1)
    ∧ (∀ w es, (u.perform w .extract).1 = .found es →
        (u.perform w .extract).2.counters = ⟨u.counters.total + es.length, u.counters.done⟩)
    ∧ (∀ v : Watched, v.extractor.language = l → v.extractor.files = u.extractor.files →
        (∀ term, term ∈ v.extractor.filters ↔ term ∈ u.extractor.filters) →
        ∀ w, (v.perform w .extract).1 = (u.perform w .extract).1)
    ∧ ∀ w w' term es, (u.perform w .extract).1 = .found es →
        ((u.perform w' (.filterName term)).2.perform w .extract).1
          = .found (es.filter fun e => !Text.contains e.name term) := by
  have hfresh : InOrder l ⟨{ language := l }, p⟩ :=
    ⟨rfl, fun f hf => absurd hf List.not_mem_nil, hp⟩
  have hextractor := extractor_run ⟨{ language := l }, p⟩ calls
  have haccepted := filterMap_file?_run ⟨{ language := l }, p⟩ calls
  have hu := hfresh.run calls
  rw [h] at hextractor haccepted hu
  simp only [List.nil_append] at hextractor
  refine ⟨⟨?_, ?_, ?_⟩, fun w f => ?_, ⟨fun w => ⟨?_, ?_⟩, fun w e => ?_⟩, fun w c e => perform_refused,
    u.extractor_perform_extract, ⟨fun w w' v es es' hv hread hparse => ?_, fun w => ?_⟩,
    fun w es => hu.counters, fun v hlanguage hfiles hterms w => ?_, fun w w' term es => found_filterName term w'⟩
  · rw [hextractor]
  · rw [hextractor, haccepted]
  · rw [hextractor]
  · rw [perform_add, hu.language]
    split <;> rfl
  · rintro ⟨es, hes⟩
    obtain ⟨hfiles, hbroken, -, -⟩ := perform_extract_found hes
    exact ⟨hfiles, hu.language ▸ hbroken⟩
  · rintro ⟨hfiles, hbroken⟩
    rcases u.perform_extract_cases w with ⟨hnone, -⟩ | ⟨reason, hreason, -⟩ | ⟨-, -, heq⟩
    · exact absurd hnone hfiles
    · rw [hu.language, hbroken] at hreason
      contradiction
    · exact ⟨_, by rw [heq]⟩
  · intro he
    rcases u.perform_extract_cases w with ⟨hnone, heq⟩ | ⟨reason, hreason, heq⟩ | ⟨-, -, heq⟩ <;> rw [heq] at he
    · exact .inl ⟨hnone, (ExtractorAnswer.refused.inj he).symm⟩
    · rw [hu.language] at hreason he
      exact .inr ⟨reason, hreason, (ExtractorAnswer.refused.inj he).symm⟩
    · contradiction
  · exact found_congr hv hread fun f hf => by rw [hu.files f hf, hparse]
  · exact fst_perform_extract (by rw [u.extractor_perform_extract w])
  · exact fst_perform_extract (Extractor.extract_congr (hlanguage.trans hu.language.symm) hfiles hterms w)

/-- A file of Rust is refused; then the methods in two files of Go are counted, and a term takes one away. -/
theorem run_session_bench : ∃ answers u,
    run ⟨{ language := .go }, ⟨5, 2⟩⟩ [(Extractor.bench, .add ⟨"a.go", .go⟩),
      (Extractor.bench, .add ⟨"x.rs", .rust⟩), (Extractor.bench, .extract),
      (Extractor.bench, .add ⟨"c.go", .go⟩)] = (answers, u)
    ∧ u.extractor.files = [⟨"a.go", .go⟩, ⟨"c.go", .go⟩]
    ∧ ∃ es, (u.perform Extractor.bench .extract).1 = .found es
      ∧ es.map Element.name = ["(*T) one", "two"]
      ∧ (u.perform Extractor.bench .extract).2.counters = ⟨8, 2⟩
      ∧ ((u.perform Extractor.bench (.filterName "two")).2.perform Extractor.bench .extract).1
        = .found [⟨"(*T) one", "a.go", 2, 1⟩] := by
  have hrun : run ⟨{ language := .go }, ⟨5, 2⟩⟩ [(Extractor.bench, .add ⟨"a.go", .go⟩),
      (Extractor.bench, .add ⟨"x.rs", .rust⟩), (Extractor.bench, .extract),
      (Extractor.bench, .add ⟨"c.go", .go⟩)]
      = ([.accepted ⟨"a.go", .go⟩, .refused (.notCompatible "x.rs"),
          .found [⟨"(*T) one", "a.go", 2, 1⟩], .accepted ⟨"c.go", .go⟩],
        ⟨⟨.go, [⟨"a.go", .go⟩, ⟨"c.go", .go⟩], []⟩, ⟨6, 2⟩⟩) := by decide +kernel
  obtain ⟨⟨-, hfiles, -⟩, -, -, -, -, -, hcounted, -, hdropped⟩ := run_session (by decide) hrun
  have hfound : (perform ⟨⟨.go, [⟨"a.go", .go⟩, ⟨"c.go", .go⟩], []⟩, ⟨6, 2⟩⟩ Extractor.bench .extract).1
      = .found [⟨"(*T) one", "a.go", 2, 1⟩, ⟨"two", "c.go", 2, 1⟩] := by decide +kernel
  refine ⟨_, _, hrun, hfiles.trans rfl, _, hfound, rfl, hcounted _ _ hfound, ?_⟩
  rw [hdropped _ Extractor.bench "two" _ hfound]
  decide

end Watched

end FunctionChurn
