import FunctionChurn.Extractor
import FunctionChurn.Proofs.Receiver
import FunctionChurn.Proofs.Source.Order

/-!
# The functions that files define

A search gives occurrences, and for a method of Go that is two of them.  A report is about functions,
so the occurrences are put together here: a `Definition` is a name with the receiver list right
before it, and a file is a list of definitions.

* `Language.definitions` are the definitions in a source file, `Workshop.definitions` those in a file
  that may turn out to be unreadable.
* `Language.pairwise_definitions`: they stand in the order of the file, none of them twice.
* **`Workshop.shown_survey`**: what one pass over the elements of many files leaves is, file by file,
  what each file defines.  This needs that no file ends in a receiver list (`Go.getLast?_declaredAfter`).
-/

namespace FunctionChurn

open Source

/-! ## Definitions -/

/-- **A function that a file defines**: the occurrence of its name, and the text of the receiver list
right before it if it is a method. -/
structure Source.Definition where
  receiver : Option (List Char)
  name : Occurrence
  deriving DecidableEq, Repr

namespace Source.Definition

/-- **The name as a report shows it**, with the receiver in front. -/
def shown (d : Definition) : String :=
  match d.receiver with
  | some receiver => Receiver.qualify (String.ofList receiver) (String.ofList d.name.text)
  | none => String.ofList d.name.text

/-- The element that is left of a definition in a file. -/
def element (file : String) (d : Definition) : Element :=
  ⟨d.shown, file, d.name.line, d.name.group⟩

end Source.Definition

namespace Source.Go

/-- The text of an occurrence that is a receiver list. -/
def receiver? (o : Occurrence) : Option (List Char) :=
  if o.group = receiverGroup then some o.text else none

/-- **The definitions among occurrences**: all names, each with the receiver list right before it. -/
def definitionsAmong (os : List Occurrence) : List Definition :=
  (((none :: os.map receiver?).zip os).filter fun p => (receiver? p.2).isNone).map
    fun p => ⟨p.1, p.2⟩

end Source.Go

/-- **The functions that a source file defines**, in its order. -/
def Language.definitions (l : Language) (source : List Char) : List Definition :=
  match l with
  | go => Go.definitionsAmong (go.occurrences source)
  | l => (l.occurrences source).map fun o => ⟨none, o⟩

/-- The names of definitions are occurrences, in their order. -/
lemma Language.name_definitions_sublist (l : Language) (source : List Char) :
    ((l.definitions source).map Definition.name).Sublist (l.occurrences source) := by
  cases l with
  | go =>
      simp only [Language.definitions, Go.definitionsAmong, List.map_map, Function.comp_def]
      have h := (List.filter_sublist (p := fun p => (Go.receiver? p.2).isNone)
        (l := (none :: (Language.go.occurrences source).map Go.receiver?).zip
          (Language.go.occurrences source))).map Prod.snd
      rwa [List.map_snd_zip (by simp)] at h
  | _ => simp [Language.definitions, Function.comp_def]

/-- **Definitions stand in the order of the file**, none of them twice. -/
theorem Language.pairwise_definitions (l : Language) (source : List Char) :
    (l.definitions source).Pairwise fun d e => d.name.offset < e.name.offset := by
  have h := (l.pairwise_occurrences source).sublist (l.name_definitions_sublist source)
  rwa [List.pairwise_map] at h

/-! ## Nothing waits at the end of a file -/

/-- **The last occurrence in a file of Go is a name.** -/
theorem Source.Go.getLast?_declaredAfter :
    ∀ (previous : Option Token) (f : Forest),
      ∀ o ∈ (declaredAfter previous f).getLast?, o.group = nameGroup
  | _, .nil => by simp [declaredAfter]
  | _, .group _ _ c rest => by
      rw [declaredAfter]
      exact getLast?_declaredAfter (some c) rest
  | previous, .leaf t rest => by
      have ih := getLast?_declaredAfter (some t) rest
      intro o ho
      rw [declaredAfter, List.getLast?_append] at ho
      cases hlast : (declaredAfter (some t) rest).getLast? with
      | some p => exact ih o (by simpa [hlast] using ho)
      | none =>
          rw [hlast, Option.none_or] at ho
          split at ho
          · rcases declaredBy_cases (beginsStatement previous t) rest with
              hby | ⟨name, _, _, hby⟩ | ⟨_, _, _, name, _, _, hby⟩
            all_goals
              simp only [hby, List.getLast?_nil, List.getLast?_singleton,
                List.getLast?_cons_cons, Option.mem_def, reduceCtorEq, Option.some.injEq] at ho
            all_goals subst ho; rfl
          · simp at ho

/-- Nothing waits behind the elements of a file of Go. -/
lemma Receiver.waitingAfter_declared (file : String) (source : List Char) :
    waitingAfter none ((Go.declared source).map (Surveyed.element file)) = none := by
  rw [waitingAfter_eq, List.getLast?_map]
  cases hlast : (Go.declared source).getLast? with
  | none => rfl
  | some o =>
      have hgroup : o.group = Go.nameGroup := Go.getLast?_declaredAfter _ _ o hlast
      simp [text?, isReceiver, Surveyed.element, hgroup, Go.nameGroup, Receiver.group]

/-! ## What the files of a language define -/

/-- An element is a receiver list just when its occurrence is one. -/
lemma Receiver.text?_element (file : String) (o : Occurrence) :
    text? (Surveyed.element file o) = (Go.receiver? o).map String.ofList := by
  simp only [text?, isReceiver, Surveyed.element, Go.receiver?, Receiver.group, Go.receiverGroup,
    beq_iff_eq]
  by_cases h : o.group = 0
  · simp [h]
  · simp [h]

/-- Whether an element is a receiver list shows in its occurrence. -/
lemma Receiver.not_isReceiver_element (file : String) (o : Occurrence) :
    (!isReceiver (Surveyed.element file o)) = (Go.receiver? o).isNone := by
  simp only [isReceiver, Surveyed.element, Go.receiver?, Receiver.group, Go.receiverGroup]
  by_cases h : o.group = 0
  · simp [h]
  · simp [h]

/-- A name under the receiver list before it is the element of a definition. -/
lemma Receiver.attach_element (file : String) (receiver : Option (List Char)) (o : Occurrence) :
    attach (receiver.map String.ofList) (Surveyed.element file o)
      = Definition.element file ⟨receiver, o⟩ := by
  cases receiver <;> rfl

/-- **What folding leaves of a source file** are its definitions. -/
theorem Extractor.shown_occurrences (l : Language) (file : String) (source : List Char) :
    Extractor.shown l ((l.occurrences source).map (Surveyed.element file))
      = (l.definitions source).map (Definition.element file) := by
  cases l with
  | go =>
      set os := Language.go.occurrences source
      have hfront : none :: (os.map (Surveyed.element file)).map Receiver.text?
          = (none :: os.map Go.receiver?).map (Option.map String.ofList) := by
        simp [Receiver.text?_element, Function.comp_def]
      have hkept : (fun p => !Receiver.isReceiver p.2)
            ∘ Prod.map (Option.map String.ofList) (Surveyed.element file)
          = fun p : Option (List Char) × Occurrence => (Go.receiver? p.2).isNone :=
        funext fun p => Receiver.not_isReceiver_element file p.2
      rw [Extractor.shown, Receiver.join_eq_map, hfront, List.zip_map, List.filter_map, hkept,
        List.map_map, Language.definitions, Go.definitionsAmong, List.map_map]
      exact List.map_congr_left fun p _ => Receiver.attach_element file p.1 p.2
  | _ => simp [Extractor.shown, Language.definitions, Definition.element, Definition.shown,
      Surveyed.element, Function.comp_def]

/-- The text of a file, if the file can be read and parsed. -/
def Workshop.source? (w : Workshop) (f : SourceFile) : Option (List Char) :=
  match w.read f.path with
  | .error _ => none
  | .ok bytes =>
      match Utf8.decode bytes with
      | .error _ => none
      | .ok source => if w.treeless f.language then none else some source

/-- **The functions that a file defines**; one that cannot be read or parsed defines none. -/
def Workshop.definitions (w : Workshop) (f : SourceFile) : List Definition :=
  ((w.source? f).map f.language.definitions).getD []

/-- The definitions of a file stand in its order, none of them twice. -/
theorem Workshop.pairwise_definitions (w : Workshop) (f : SourceFile) :
    (w.definitions f).Pairwise fun d e => d.name.offset < e.name.offset := by
  unfold definitions
  cases w.source? f with
  | none => exact List.Pairwise.nil
  | some source => exact f.language.pairwise_definitions source

/-- The elements of a file, by its text. -/
lemma Surveyed.elements_ofFile (w : Workshop) (f : SourceFile) :
    (ofFile w f).elements
      = ((w.source? f).map fun source =>
          (f.language.occurrences source).map (element f.path)).getD [] := by
  unfold ofFile Workshop.source?
  cases w.read f.path with
  | error fault => rfl
  | ok bytes =>
      dsimp only
      cases Utf8.decode bytes with
      | error m => rfl
      | ok source =>
          dsimp only
          split <;> rfl

/-- What folding leaves of one file are its definitions. -/
lemma Extractor.shown_ofFile (w : Workshop) (f : SourceFile) :
    Extractor.shown f.language (Surveyed.ofFile w f).elements
      = (w.definitions f).map (Definition.element f.path) := by
  rw [Surveyed.elements_ofFile, Workshop.definitions]
  cases w.source? f with
  | none => cases f.language <;> rfl
  | some source => exact Extractor.shown_occurrences f.language f.path source

/-- Nothing waits behind the elements of a file of Go. -/
lemma Receiver.waitingAfter_ofFile (w : Workshop) {f : SourceFile} (h : f.language = .go) :
    waitingAfter none (Surveyed.ofFile w f).elements = none := by
  rw [Surveyed.elements_ofFile, h]
  cases w.source? f with
  | none => rfl
  | some source => exact waitingAfter_declared f.path source

/-- **What folding leaves of many files of a language** is, file by file, what they define. -/
theorem Workshop.shown_survey (w : Workshop) (l : Language) (fs : List SourceFile)
    (h : ∀ f ∈ fs, f.language = l) :
    Extractor.shown l ((fs.map (Surveyed.ofFile w)).flatMap Surveyed.elements)
      = fs.flatMap fun f => (w.definitions f).map (Definition.element f.path) := by
  have hfile : ∀ f ∈ fs, Extractor.shown l (Surveyed.ofFile w f).elements
      = (w.definitions f).map (Definition.element f.path) := by
    intro f hf
    rw [← h f hf]
    exact Extractor.shown_ofFile w f
  rw [List.flatMap_map]
  cases l with
  | go =>
      rw [Extractor.shown, Receiver.join_flatMap _ _ fun f hf => Receiver.waitingAfter_ofFile w (h f hf)]
      exact List.flatMap_congr hfile
  | _ => exact List.flatMap_congr hfile

end FunctionChurn
