import FunctionChurn.Proofs.Settings.Values
import FunctionChurn.Settings.File

/-!
# What a settings file says

A settings file need not be there, need not say anything, and need not be one that can be read.  What
it says is told here apart from the settings that are made of it.

* `Settings.Reads` is what the text of a file says: the pairs of its mapping, or what is wrong.
* `Settings.Says` is what a file says, `Settings.Jams` that a value in it cannot be.
* `Settings.said_or_jams`: there is no other case, unless the system refuses to look for the file.
* **`Settings.loadFrom_of_said`**: the settings of a file that says something.
* `Settings.Blocks` is why there may be no settings in spite of a good file, and **`Settings.load_cases`**
  says that there is no other reason.
-/

namespace FunctionChurn.Settings

open Yaml (Value)

/-- The pairs of a mapping, or what is wrong. -/
abbrev Report := Except SettingsError (List (Value × Value))

/-- Whether a document is a mapping, or says nothing. -/
def isSettings : Value → Bool
  | .null | .mapping _ => true
  | _ => false

/-- **What a text says** as YAML.  A blank one, and a document that is null, have no pairs. -/
inductive Reads (name : String) (text : List Char) : Report → Prop
  | blank (h : text.all Text.isBlank = true) : Reads name text (.ok [])
  | null (written : text.all Text.isBlank = false) (h : Yaml.read text = .ok .null) :
      Reads name text (.ok [])
  | mapping {pairs : List (Value × Value)} (written : text.all Text.isBlank = false)
      (h : Yaml.read text = .ok (.mapping pairs)) : Reads name text (.ok pairs)
  | malformed (written : text.all Text.isBlank = false) (h : Yaml.read text = .error .malformed) :
      Reads name text (.error (.unparsable name text))
  | otherwise {v : Value} (written : text.all Text.isBlank = false) (h : Yaml.read text = .ok v)
      (unusable : isSettings v = false) : Reads name text (.error .notMapping)

/-- **What a file says.**  One that is not there has no pairs. -/
inductive Says (d : Disk) (place : String) : Report → Prop
  | absent (missing : d.exists place = .ok false) : Says d place (.ok [])
  | unreadable {f : SystemFault} (present : d.exists place = .ok true) (h : d.read place = .error f) :
      Says d place (.error (.unreadable (Path.baseName place) (.system f)))
  | undecodable {bytes : Bytes} {m : Utf8.Malformed} (h : d.read place = .ok bytes)
      (malformed : Text.ofContent bytes = .error m) :
      Says d place (.error (.unreadable (Path.baseName place) (.notText m)))
  | text {bytes : Bytes} {text : List Char} {said : Report} (h : d.read place = .ok bytes)
      (decoded : Text.ofContent bytes = .ok text) (reads : Reads (Path.baseName place) text said) :
      Says d place said

/-- **A value in a file cannot be**, though the file is YAML. -/
def Jams (d : Disk) (place : String) (f : Yaml.LoadFault) : Prop :=
  f ≠ .malformed ∧ ∃ bytes text, d.read place = .ok bytes ∧ Text.ofContent bytes = .ok text
    ∧ text.all Text.isBlank = false ∧ Yaml.read text = .error f

/-! ## The settings of a text -/

/-- **The settings that a report gives.** -/
def ofReport (root : String) : Report → Except SettingsFailure Settings
  | .ok pairs => (ofPairs root pairs).mapError .unwritable
  | .error e => .error (.file e)

/-- Without pairs all settings are the usual ones. -/
lemma ofReport_nil (root : String) : ofReport root (.ok []) = .ok { root } := by
  rw [ofReport, ofPairs_eq]
  rfl

lemma ofText_of_reads {root name : String} {text : List Char} {said : Report}
    (h : Reads name text said) : ofText root name text = ofReport root said := by
  cases h with
  | blank h => rw [ofText, if_pos h, ofReport_nil]
  | null written h =>
      rw [ofText, if_neg (by simp [written]), h, ofReport_nil]
      rfl
  | mapping written h =>
      rw [ofText, if_neg (by simp [written]), h]
      rfl
  | malformed written h =>
      rw [ofText, if_neg (by simp [written]), h]
      rfl
  | @otherwise v written h unusable =>
      rw [ofText, if_neg (by simp [written]), h]
      cases v with
      | null | mapping => simp [isSettings] at unusable
      | boolean | integer | decimal | text | list | other => rfl

/-- A text says something, or a value in it cannot be. -/
lemma reads_or_jams (name : String) (text : List Char) :
    (∃ said, Reads name text said)
      ∨ ∃ f, f ≠ .malformed ∧ text.all Text.isBlank = false ∧ Yaml.read text = .error f := by
  cases hblank : text.all Text.isBlank with
  | true => exact .inl ⟨_, .blank hblank⟩
  | false =>
      cases hread : Yaml.read text with
      | error f =>
          by_cases hf : f = .malformed
          · exact .inl ⟨_, .malformed hblank (hf ▸ hread)⟩
          · exact .inr ⟨f, hf, rfl, rfl⟩
      | ok v =>
          cases hv : isSettings v with
          | false => exact .inl ⟨_, .otherwise hblank hread hv⟩
          | true =>
              cases v with
              | null => exact .inl ⟨_, .null hblank hread⟩
              | mapping pairs => exact .inl ⟨_, .mapping hblank hread⟩
              | boolean | integer | decimal | text | list | other => simp [isSettings] at hv

/-! ## The settings of a file -/

variable {d : Disk} {root place : String}

/-- A file that is read is there. -/
lemma exists_of_read {bytes : Bytes} (h : d.read place = .ok bytes) : d.exists place = .ok true := by
  unfold Disk.read at h
  unfold Disk.exists Disk.ask
  cases hfind : d.find place with
  | ok found => rfl
  | error o => simp [hfind] at h

/-- **A file says something, or a value in it cannot be**, if the system does not refuse to look for it. -/
theorem said_or_jams (d : Disk) (place : String) :
    (∃ said, Says d place said) ∨ (∃ f, Jams d place f) ∨ ∃ f, d.exists place = .error f := by
  cases hexists : d.exists place with
  | error f => exact .inr (.inr ⟨f, rfl⟩)
  | ok there =>
      cases there with
      | false => exact .inl ⟨_, .absent hexists⟩
      | true =>
          cases hread : d.read place with
          | error f => exact .inl ⟨_, .unreadable hexists hread⟩
          | ok bytes =>
              cases hdecode : Text.ofContent bytes with
              | error m => exact .inl ⟨_, .undecodable hread hdecode⟩
              | ok text =>
                  rcases reads_or_jams (Path.baseName place) text with ⟨said, h⟩ | ⟨f, hf, hfault⟩
                  · exact .inl ⟨said, .text hread hdecode h⟩
                  · exact .inr (.inl ⟨f, hf, bytes, text, hread, hdecode, hfault⟩)

/-- **The settings of a file that says something** are those in its pairs. -/
theorem loadFrom_of_said {said : Report} (h : Says d place said) :
    loadFrom d root place = ofReport root said := by
  cases h with
  | absent missing => simp only [loadFrom, missing, ofReport_nil]
  | unreadable present h => simp only [loadFrom, present, h, ofReport]
  | undecodable h malformed => simp only [loadFrom, exists_of_read h, h, ofContent, malformed, ofReport]
  | text h decoded reads =>
      simp only [loadFrom, exists_of_read h, h, ofContent, decoded]
      exact ofText_of_reads reads

/-- A file with a value that cannot be has no settings. -/
lemma loadFrom_of_jams {f : Yaml.LoadFault} (h : Jams d place f) :
    loadFrom d root place = .error (.value f) := by
  obtain ⟨hf, bytes, text, hread, hdecode, hwritten, hfault⟩ := h
  simp only [loadFrom, exists_of_read hread, hread, ofContent, hdecode, ofText, hwritten, hfault,
    Bool.false_eq_true, if_false]
  cases f with
  | malformed => exact absurd rfl hf
  | codePoint | moment | tooLong | notInteger | notNumber | emptyNumber | notBoolean | notMoment =>
      rfl

/-- A file that the system refuses to look for has no settings. -/
lemma loadFrom_of_refused {f : SystemFault} (h : d.exists place = .error f) :
    loadFrom d root place = .error (.system f) := by
  simp only [loadFrom, h]

/-! ## The settings for a path -/

variable {path : String}

/-- The settings for a path are those of the file that it leads to. -/
lemma load_eq_loadFrom (hplace : Settings.place d path = .ok place)
    (hroot : directoryOf d place = .ok root) : load d path = loadFrom d root place := by
  rw [load, hplace]
  dsimp only
  rw [hroot]

/-- **Why there are no settings for a path, though nothing is wrong with its file**: the path leads
nowhere or is none, or the system refuses to look where it leads, or the file holds a value that cannot be,
or a number that is not written. -/
inductive Blocks (d : Disk) (path : String) : SettingsFailure → Prop
  | home (unknown : d.expandHome path = none) : Blocks d path (homeFailure path)
  | look {home : String} {f : SystemFault} (known : d.expandHome path = some home)
      (refused : d.isDirectory home = .error f) : Blocks d path (.system f)
  | null {home : String} (known : d.expandHome path = some home) (answered : d.isDirectory home = .ok false)
      (holds : Path.holdsNull home = true) : Blocks d path (.system .nullByte)
  | file {home written : String} {directory : Bool} (known : d.expandHome path = some home)
      (answered : d.isDirectory home = .ok directory) (whole : (!directory && Path.holdsNull home) = false)
      (loop : d.settle (filePath home directory) = .error written) : Blocks d path (.linkLoop written)
  | directory {place written : String} (found : Settings.place d path = .ok place)
      (loop : d.settle (Path.absolute (Path.names place).dropLast) = .error written) :
      Blocks d path (.linkLoop written)
  | search {place root : String} {f : SystemFault} (found : Settings.place d path = .ok place)
      (inside : directoryOf d place = .ok root) (refused : d.exists place = .error f) :
      Blocks d path (.system f)
  | value {place root : String} {f : Yaml.LoadFault} (found : Settings.place d path = .ok place)
      (inside : directoryOf d place = .ok root) (jams : Jams d place f) : Blocks d path (.value f)
  | number {place root : String} {pairs : List (Value × Value)}
      (found : Settings.place d path = .ok place) (inside : directoryOf d place = .ok root)
      (said : Says d place (.ok pairs)) (long : holdsLong pairs = true) :
      Blocks d path (.unwritable .tooLong)

lemma load_of_blocks {f : SettingsFailure} (h : Blocks d path f) : load d path = .error f := by
  cases h with
  | home unknown => simp only [load, Settings.place, unknown]
  | look known refused => simp only [load, Settings.place, known, refused]
  | null known answered holds => simp [load, Settings.place, known, answered, holds]
  | file known answered whole loop =>
      simp only [load, Settings.place, known, answered, whole, loop, Except.mapError, Bool.false_eq_true, if_false]
  | directory found loop => simp only [load, found, directoryOf, loop, Except.mapError]
  | search found inside refused => rw [load_eq_loadFrom found inside, loadFrom_of_refused refused]
  | value found inside jams => rw [load_eq_loadFrom found inside, loadFrom_of_jams jams]
  | number found inside said long =>
      rw [load_eq_loadFrom found inside, loadFrom_of_said said, ofReport, ofPairs_eq, if_pos long]
      rfl

/-- What comes of the file that a path leads to. -/
lemma load_cases_of_place (hplace : Settings.place d path = .ok place)
    (hroot : directoryOf d place = .ok root) :
    (∃ root pairs, load d path = .ok (said root pairs)) ∨ (∃ e, load d path = .error (.file e))
      ∨ ∃ f, load d path = .error f ∧ Blocks d path f := by
  have hblocks : ∀ {f}, Blocks d path f → ∃ f, load d path = .error f ∧ Blocks d path f :=
    fun h => ⟨_, load_of_blocks h, h⟩
  rcases said_or_jams d place with ⟨said, hsaid⟩ | ⟨f, hjams⟩ | ⟨f, hrefused⟩
  · have hload := load_eq_loadFrom hplace hroot
    rw [loadFrom_of_said hsaid] at hload
    cases said with
    | error e => exact .inr (.inl ⟨e, hload⟩)
    | ok pairs =>
        cases hlong : holdsLong pairs with
        | true => exact .inr (.inr (hblocks (.number hplace hroot hsaid hlong)))
        | false =>
            rw [ofReport, ofPairs_eq, hlong] at hload
            exact .inl ⟨root, pairs, hload⟩
  · exact .inr (.inr (hblocks (.value hplace hroot hjams)))
  · exact .inr (.inr (hblocks (.search hplace hroot hrefused)))

/-- **There are settings for a path**, or something is wrong with its file, or one of these reasons holds.
-/
theorem load_cases (d : Disk) (path : String) :
    (∃ root pairs, load d path = .ok (said root pairs)) ∨ (∃ e, load d path = .error (.file e))
      ∨ ∃ f, load d path = .error f ∧ Blocks d path f := by
  have hblocks : ∀ {f}, Blocks d path f → (∃ root pairs, load d path = .ok (said root pairs))
      ∨ (∃ e, load d path = .error (.file e)) ∨ ∃ f, load d path = .error f ∧ Blocks d path f :=
    fun h => .inr (.inr ⟨_, load_of_blocks h, h⟩)
  cases hhome : d.expandHome path with
  | none => exact hblocks (.home hhome)
  | some home =>
      cases hdirectory : d.isDirectory home with
      | error f => exact hblocks (.look hhome hdirectory)
      | ok directory =>
          cases hnull : !directory && Path.holdsNull home with
          | true =>
              obtain ⟨hplain, hholds⟩ := Bool.and_eq_true_iff.mp hnull
              obtain rfl : directory = false := by simpa using hplain
              exact hblocks (.null hhome hdirectory hholds)
          | false =>
              cases hsettle : d.settle (filePath home directory) with
              | error written => exact hblocks (.file hhome hdirectory hnull hsettle)
              | ok place =>
                  have hplace : Settings.place d path = .ok place := by
                    simp only [Settings.place, hhome, hdirectory, hnull, hsettle, Except.mapError,
                      Bool.false_eq_true, if_false]
                  cases hinside : d.settle (Path.absolute (Path.names place).dropLast) with
                  | error written => exact hblocks (.directory hplace hinside)
                  | ok root =>
                      have hroot : directoryOf d place = .ok root := by
                        simp only [directoryOf, hinside, Except.mapError]
                      exact load_cases_of_place hplace hroot

end FunctionChurn.Settings

namespace FunctionChurn.Sample

open Yaml (Value)

/-- The pairs of a document, if it is a mapping. -/
def pairs? : Except Yaml.LoadFault Value → Option (List (Value × Value))
  | .ok (.mapping pairs) => some pairs
  | _ => none

lemma eq_of_pairs? {read : Except Yaml.LoadFault Value} {pairs : List (Value × Value)}
    (h : pairs? read = some pairs) : read = .ok (.mapping pairs) := by
  unfold pairs? at h
  split at h
  · rw [Option.some.inj h]
  · contradiction

end FunctionChurn.Sample
