import FunctionChurn.Proofs.Extraction
import FunctionChurn.Proofs.Source.Position

/-!
# Where the functions of a report stand

What a search gives can be found again in the file, and so can what an extraction makes of it: neither the
folding of receivers nor the terms move anything.

* `Language.placed`: the occurrences in a file stand in its bytes where they say, in their order.
* `Extractor.named`: what an extraction leaves of a file, as definitions.
* **`Extractor.placement`** says where all elements of an extraction stand.
-/

namespace FunctionChurn

open Source

/-- **The occurrences in a file stand in its bytes where they say**, each further back than the one before it and
on no earlier line. -/
theorem Language.placed (l : Language) {bytes : Bytes} {source : List Char}
    (h : Utf8.decode bytes = .ok source) :
    (l.occurrences source).Pairwise (fun o p => o.offset < p.offset ∧ o.line ≤ p.line)
      ∧ (l.occurrences source).Nodup
      ∧ ∀ o ∈ l.occurrences source,
        o.PlacedIn bytes ∧ 1 ≤ o.line ∧ o.line ≤ 1 + bytes.count 0x0A := by
  have hplaced : ∀ o ∈ l.occurrences source, o.PlacedIn bytes := by
    intro o ho
    rw [← Utf8.encode_of_decode h]
    exact (l.standsIn_of_mem source o ho).placedIn
  have horder := l.pairwise_occurrences source
  refine ⟨?_, ?_, fun o ho => ⟨hplaced o ho, (hplaced o ho).line_le⟩⟩
  · refine horder.imp_of_mem fun ho hp hlt => ⟨hlt, ?_⟩
    exact (hplaced _ ho).line_mono (hplaced _ hp) (Nat.le_of_lt hlt)
  · refine horder.imp fun hlt heq => ?_
    rw [heq] at hlt
    exact Nat.lt_irrefl _ hlt

/-- A definition of Go is named by what is in the group of names. -/
lemma Source.Go.group_of_mem_definitionsAmong {os : List Occurrence}
    (hos : ∀ o ∈ os, o.group = receiverGroup ∨ o.group = nameGroup) {d : Definition}
    (h : d ∈ definitionsAmong os) : d.name.group = nameGroup := by
  obtain ⟨p, hp, rfl⟩ := List.mem_map.mp h
  obtain ⟨hzip, hname⟩ := List.mem_filter.mp hp
  rcases hos p.2 (List.of_mem_zip hzip).2 with hgroup | hgroup
  · simp [receiver?, hgroup] at hname
  · exact hgroup

/-- What a row declares is a receiver list or a name. -/
lemma Source.Go.group_of_mem_declaredAfter :
    ∀ (previous : Option Token) (f : Forest), ∀ o ∈ declaredAfter previous f,
      o.group = receiverGroup ∨ o.group = nameGroup
  | _, .nil, _, h => by simp [declaredAfter] at h
  | _, .group _ _ c rest, o, h => group_of_mem_declaredAfter (some c) rest o h
  | previous, .leaf t rest, o, h => by
      rw [declaredAfter, List.mem_append] at h
      rcases h with h | h
      · split at h
        · rcases declaredBy_cases (beginsStatement previous t) rest with
            hby | ⟨name, _, _, hby⟩ | ⟨_, _, _, name, _, _, hby⟩
          · simp [hby] at h
          · rw [hby, List.mem_singleton] at h
            rw [h]
            exact .inr rfl
          · rw [hby, List.mem_cons, List.mem_singleton] at h
            rcases h with rfl | rfl
            · exact .inl rfl
            · exact .inr rfl
        · simp at h
      · exact group_of_mem_declaredAfter (some t) rest o h

namespace Extractor

/-- **What an extraction leaves of a file**: the definitions in it whose names hold no term. -/
def named (x : Extractor) (w : Workshop) (f : SourceFile) : List Definition :=
  (w.definitions f).filter fun d => !x.isFiltered d.shown

/-- What is left of a file was found in its text. -/
lemma exists_of_mem_named {x : Extractor} {w : Workshop} {f : SourceFile} {d : Definition}
    (h : d ∈ x.named w f) : ∃ bytes source, w.read f.path = .ok bytes ∧ Utf8.decode bytes = .ok source
      ∧ d ∈ f.language.definitions source := by
  have hdefinitions := (List.mem_filter.mp h).1
  unfold Workshop.definitions Workshop.source? at hdefinitions
  cases hread : w.read f.path with
  | error fault => simp [hread] at hdefinitions
  | ok bytes =>
      cases hdecode : Utf8.decode bytes with
      | error m => simp [hread, hdecode] at hdefinitions
      | ok source =>
          refine ⟨bytes, source, rfl, hdecode, ?_⟩
          simp only [hread, hdecode] at hdefinitions
          split at hdefinitions
          · simp at hdefinitions
          · simpa using hdefinitions

/-- **What an extraction gives can be found again.**

1. The occurrences in the bytes of a text stand where they say, each further back than the one before it and on no
   earlier line.  Only a line feed ends a line.
2. What an extraction gives is, file by file, what is left of the file.  All that is left of a file was found in
   its bytes and stands there in its order, and an element has the path of the file and the line of its own name.
   A name of Go is in the group of names. -/
theorem placement (x : Extractor) (w : Workshop) (h : ∀ f ∈ x.files, f.language = x.language) :
    (∀ (l : Language) (bytes : Bytes) (source : List Char), Utf8.decode bytes = .ok source →
      (l.occurrences source).Pairwise (fun o p => o.offset < p.offset ∧ o.line ≤ p.line)
        ∧ (l.occurrences source).Nodup
        ∧ ∀ o ∈ l.occurrences source,
          o.PlacedIn bytes ∧ 1 ≤ o.line ∧ o.line ≤ 1 + bytes.count 0x0A)
    ∧ ∀ got, x.extract w = .ok got →
      got.elements = x.files.flatMap (fun f => (x.named w f).map (Definition.element f.path))
        ∧ ∀ f ∈ x.files,
          (x.named w f).Pairwise (fun d e => d.name.offset < e.name.offset)
          ∧ ∀ d ∈ x.named w f, ∃ bytes source, w.read f.path = .ok bytes
            ∧ Utf8.decode bytes = .ok source ∧ d.name ∈ x.language.occurrences source
            ∧ d.name.PlacedIn bytes ∧ (x.language = .go → d.name.group = 1) := by
  refine ⟨fun l _ _ hdecode => l.placed hdecode, fun got hgot => ⟨?_, fun f hf => ⟨?_, fun d hd => ?_⟩⟩⟩
  · have hfound : x.found w = got.elements := by rw [found, hgot]
    have hnotBroken : (w.broken x.language).isSome = false := by
      unfold extract at hgot
      split at hgot
      · contradiction
      · cases hbroken : w.broken x.language with
        | some reason => simp [hbroken] at hgot
        | none => rfl
    rw [← hfound, x.found_eq w h, hnotBroken, if_neg (by decide)]
    rfl
  · exact (w.pairwise_definitions f).sublist List.filter_sublist
  · obtain ⟨bytes, source, hread, hdecode, hdefinition⟩ := exists_of_mem_named hd
    rw [h f hf] at hdefinition
    have hname : d.name ∈ x.language.occurrences source :=
      (x.language.name_definitions_sublist source).subset (List.mem_map_of_mem hdefinition)
    refine ⟨bytes, source, hread, hdecode, hname, ((x.language.placed hdecode).2.2 d.name hname).1, ?_⟩
    intro hgo
    rw [hgo] at hdefinition
    exact Go.group_of_mem_definitionsAmong (Go.group_of_mem_declaredAfter none _) hdefinition

/-- A file of Go with a byte order mark, a carriage return, and a receiver list that begins on an earlier line
than the name behind it. -/
def leaf : Workshop where
  read _ := .ok (Utf8.encode "\uFEFFpackage a\r\n\x0cfunc (\nx *T) one() \x7b\x7d\n".toList)
  elapsed := "0.000"

/-- The method stands on the third line, where its name is, and not on the second, where its receiver list
begins. -/
theorem placement_leaf : ∃ got bytes,
    extract ⟨.go, [⟨"a.go", .go⟩], []⟩ leaf = .ok got ∧ leaf.read "a.go" = .ok bytes
      ∧ got.elements = [⟨"(*T) one", "a.go", 3, 1⟩]
      ∧ Occurrence.PlacedIn ⟨1, "one".toList, 28, 3⟩ bytes := by
  have hlanguage : ∀ f ∈ [(⟨"a.go", .go⟩ : SourceFile)], f.language = .go := by decide
  have hnamed : named ⟨.go, [⟨"a.go", .go⟩], []⟩ leaf ⟨"a.go", .go⟩
      = [⟨some "(\nx *T)".toList, ⟨1, "one".toList, 28, 3⟩⟩] := by decide +kernel
  obtain ⟨got, hgot⟩ : ∃ got, extract ⟨.go, [⟨"a.go", .go⟩], []⟩ leaf = .ok got := ⟨_, rfl⟩
  obtain ⟨helements, hfile⟩ := (placement ⟨.go, [⟨"a.go", .go⟩], []⟩ leaf hlanguage).2 got hgot
  obtain ⟨bytes, _, hread, -, -, hplaced, -⟩ := (hfile ⟨"a.go", .go⟩ List.mem_cons_self).2 _
    (by rw [hnamed]; exact List.mem_cons_self)
  refine ⟨got, bytes, hgot, hread, ?_, hplaced⟩
  rw [helements, List.flatMap_singleton, hnamed]
  decide +kernel

end Extractor

end FunctionChurn
