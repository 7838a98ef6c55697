import FunctionChurn.Proofs.Settings.Files

/-!
# Settings that can be used

A settings file can say anything, and a report can only be made with choices that make sense.  Between
the two stands the loading: something is wrong with the file and is told, or every setting has a value
that can be used.  A setting looks at the value of its own key and at nothing else.

* `Setting` names the settings, `Setting.own` are the pairs of a mapping that a setting looks at.
* `Setting.Takes` is what a setting takes of a value, `Setting.PassesOver` are values that leave it as usual.
* `Settings.IsValid` says that settings can be used.
* **`Settings.load_valid`**: what comes of a settings file.
* `Settings.not_ofValue_usable` is the one thing that is neither told nor passed over: a number that is
  not written.
-/

namespace FunctionChurn

open Yaml (Value)

/-- **A setting that a file has a say in.** -/
inductive Setting where
  | total
  | skip
  | prefixes
  | invertMatch
  | excludeFunc
  | git
  | workers

namespace Setting

/-- The key of a setting. -/
def key : Setting → String
  | total => "total"
  | skip => "skip"
  | prefixes => "prefixes"
  | invertMatch => "invert_match"
  | excludeFunc => "exclude_func"
  | git => "git"
  | workers => "workers"

/-- The least number that a setting takes, if it is a number at all. -/
def least? : Setting → Option Int
  | total | skip => some 0
  | workers => some 1
  | prefixes | invertMatch | excludeFunc | git => none

/-- Whether a setting has the same value in two groups of settings. -/
def Agree (s s' : Settings) : Setting → Prop
  | total => s.total = s'.total
  | skip => s.skip = s'.skip
  | prefixes => s.prefixes = s'.prefixes
  | invertMatch => s.invertMatch = s'.invertMatch
  | excludeFunc => s.excludeFunc = s'.excludeFunc
  | git => s.git = s'.git
  | workers => s.workers = s'.workers

/-- **The pairs of a mapping that have the key of a setting.** -/
def own (k : Setting) (pairs : List (Value × Value)) : List (Value × Value) :=
  pairs.filter fun p => p.1.isText k.key

/-- **A value that a setting passes over.**  A setting that is a number also passes over a fraction, a
text that spells no whole number, and a number that is too low. -/
inductive PassesOver (k : Setting) : Value → Prop
  | null : PassesOver k .null
  | boolean (b : Bool) : PassesOver k (.boolean b)
  | mapping (pairs : List (Value × Value)) : PassesOver k (.mapping pairs)
  | decimal {least : Int} (x : Float) (number : k.least? = some least) : PassesOver k (.decimal x)
  | text {least : Int} {s : String} (number : k.least? = some least)
      (unspelled : ∀ n, ¬ Integer.Spells s.toList n) : PassesOver k (.text s)
  | low {least n : Int} {v : Value} (number : k.least? = some least) (whole : v.Whole n)
      (low : n < least) : PassesOver k v

/-- **What a setting takes of a value**: a whole number that is not too low, a text that is not empty, or
the texts of a list. -/
def Takes (s : Settings) (v : Value) : Setting → Prop
  | total => ∀ n, v.Whole n → 0 ≤ n → s.total = n
  | skip => ∀ n, v.Whole n → 0 ≤ n → s.skip = n
  | prefixes => s.prefixes = v.words
  | invertMatch => s.invertMatch = v.words
  | excludeFunc => s.excludeFunc = v.words
  | git => ∀ t, v.word? = some t → t ≠ "" → s.git = t
  | workers => ∀ n, v.Whole n → 1 ≤ n → s.workers = some n

variable {k : Setting} {v : Value} {pairs pairs' : List (Value × Value)}

/-- The value of a setting's key is that of the last of its pairs. -/
lemma atKey_eq (k : Setting) (pairs : List (Value × Value)) :
    Value.atKey k.key pairs = match (k.own pairs).getLast? with
      | some p => p.2
      | none => .null := by
  rw [own, ← List.head?_reverse, ← List.filter_reverse, List.head?_filter]
  rfl

lemma PassesOver.of_isSettings (h : Settings.isSettings v = true) : k.PassesOver v := by
  cases v with
  | null => exact .null
  | mapping pairs => exact .mapping pairs
  | boolean | integer | decimal | text | list | other => simp [Settings.isSettings] at h

/-- A number that is passed over is too low. -/
lemma PassesOver.lt_least {least : Int} (h : k.PassesOver v) (number : k.least? = some least) :
    ∀ n, v.Whole n → n < least := by
  intro n hn
  cases h with
  | null | boolean | mapping | decimal => cases hn
  | text _ unspelled =>
      cases hn with
      | text spells => exact absurd spells (unspelled n)
  | low number' whole hlow =>
      obtain rfl := Option.some.inj (number.symm.trans number')
      rwa [hn.unique whole]

/-- What is passed over where a text is asked for is no text, and no list of texts. -/
lemma PassesOver.wordless (h : k.PassesOver v) (textual : k.least? = none) :
    v.word? = none ∧ v.words = [] := by
  cases h with
  | null | boolean | mapping => exact ⟨rfl, rfl⟩
  | decimal _ number | text number | low number => simp [textual] at number

end Setting

namespace Settings

/-- **Settings that can be used**: a part of the ranking that can be cut out, a crew that is not empty,
and a program with a name. -/
structure IsValid (s : Settings) : Prop where
  total : 0 ≤ s.total
  skip : 0 ≤ s.skip
  workers : ∀ n, s.workers = some n → 1 ≤ n
  git : s.git ≠ ""

variable {d : Disk} {path place root root' : String} {k : Setting} {v : Value}
  {pairs pairs' : List (Value × Value)}

/-! ## What the pairs say -/

/-- **Whatever pairs say can be used.** -/
theorem isValid_said (root : String) (pairs : List (Value × Value)) : (said root pairs).IsValid where
  total := (rows_rows 50 _).nonneg (by decide)
  skip := (rows_rows 0 _).nonneg (by decide)
  workers _ h := (crew_eq_some h).2
  git := by
    rw [said, ← program_eq]
    exact program_ne_empty _

/-- A setting takes what it can use. -/
lemma takes_said (root : String) (pairs : List (Value × Value)) (k : Setting) :
    k.Takes (said root pairs) (.atKey k.key pairs) := by
  cases k with
  | total | skip => exact fun n whole nonneg => (rows_rows _ _).unique (.asked whole nonneg)
  | prefixes | invertMatch | excludeFunc => rfl
  | git =>
      intro t hword hwritten
      simp only [Setting.key] at hword
      simp [said, hword, Option.filter, hwritten]
  | workers => exact fun n => crew_of_whole

/-- A setting looks at the pairs with its own key only. -/
lemma agree_said_of_own (same : k.own pairs' = k.own pairs) :
    k.Agree (said root' pairs') (said root pairs) := by
  have hvalue : Value.atKey k.key pairs' = Value.atKey k.key pairs := by
    rw [k.atKey_eq, k.atKey_eq, same]
  cases k <;> simp only [Setting.key] at hvalue <;> simp only [Setting.Agree, said, hvalue]

/-- What is passed over leaves a setting as usual. -/
lemma agree_usual_of_passesOver (h : k.PassesOver (.atKey k.key pairs)) :
    k.Agree (said root pairs) { root } := by
  cases k with
  | total | skip => exact rows_eq_usual (h.lt_least rfl)
  | workers => exact crew_eq_none (h.lt_least rfl)
  | prefixes | invertMatch | excludeFunc => exact (h.wordless rfl).2
  | git =>
      have hword := (h.wordless rfl).1
      simp only [Setting.key] at hword
      simp only [Setting.Agree, said, hword, Option.filter_none, Option.getD_none]

/-- A setting whose key is missing is as usual. -/
lemma passesOver_of_own_eq_nil (h : k.own pairs = []) : k.PassesOver (.atKey k.key pairs) := by
  rw [k.atKey_eq, h]
  exact .null

/-! ## What comes of a file -/

/-- **The file for a path says something**, and lies in a directory. -/
inductive Holds (d : Disk) (path root : String) (said : Report) : Prop
  | file {place : String} (found : Settings.place d path = .ok place)
      (inside : directoryOf d place = .ok root) (report : Says d place said)

lemma load_of_holds {report : Report} (h : Holds d path root report) :
    load d path = ofReport root report := by
  obtain ⟨found, inside, report⟩ := h
  rw [load_eq_loadFrom found inside, loadFrom_of_said report]

/-- The settings of a mapping are what its pairs say, unless a number is not written. -/
lemma load_of_pairs (h : Holds d path root (.ok pairs)) :
    load d path
      = if holdsLong pairs then .error (.unwritable .tooLong) else .ok (said root pairs) := by
  rw [load_of_holds h, ofReport, ofPairs_eq]
  cases holdsLong pairs <;> rfl

lemma eq_said_of_load {s : Settings} (h : Holds d path root (.ok pairs)) (hload : load d path = .ok s) :
    s = said root pairs := by
  rw [load_of_pairs h] at hload
  split at hload
  · contradiction
  · exact (Except.ok.inj hload).symm

section Located

variable (found : Settings.place d path = .ok place) (inside : directoryOf d place = .ok root)
include found inside

/-- **What the loading can come to.** -/
lemma load_outcomes :
    (∃ e, Says d place (.error e) ∧ load d path = .error (.file e))
    ∨ (∃ f, Jams d place f ∧ load d path = .error (.value f))
    ∨ (∃ f, d.exists place = .error f ∧ load d path = .error (.system f))
    ∨ ∃ pairs, Says d place (.ok pairs) ∧ load d path
        = if holdsLong pairs then .error (.unwritable .tooLong) else .ok (said root pairs) := by
  have hload := load_eq_loadFrom found inside
  rcases said_or_jams d place with ⟨report, hreport⟩ | ⟨f, hjams⟩ | ⟨f, hrefused⟩
  · cases report with
    | error e => exact .inl ⟨e, hreport, load_of_holds (.file found inside hreport)⟩
    | ok pairs => exact .inr (.inr (.inr ⟨pairs, hreport, load_of_pairs (.file found inside hreport)⟩))
  · exact .inr (.inl ⟨f, hjams, by rw [hload, loadFrom_of_jams hjams]⟩)
  · exact .inr (.inr (.inl ⟨f, hrefused, by rw [hload, loadFrom_of_refused hrefused]⟩))

/-- **Settings that are not there** tell why: what is told is what is wrong with the file, or what it cannot be,
or what the system refuses. -/
lemma reason_of_load {f : SettingsFailure} (hload : load d path = .error f) :
    match f with
    | .file e => Says d place (.error e)
    | .value f => Jams d place f
    | .system f => d.exists place = .error f
    | _ => True := by
  rcases load_outcomes found inside with ⟨e, he, heq⟩ | ⟨f', hf', heq⟩ | ⟨f', hf', heq⟩ | ⟨pairs, -, heq⟩ <;>
    rw [hload] at heq
  · obtain rfl := Except.error.inj heq
    exact he
  · obtain rfl := Except.error.inj heq
    exact hf'
  · obtain rfl := Except.error.inj heq
    exact hf'
  · split at heq
    · obtain rfl := Except.error.inj heq
      trivial
    · contradiction

end Located

/-- **What comes of a settings file.**

1. Something is told to be wrong with the file exactly if it cannot be read, is no text, is no YAML, or is
   neither blank nor null nor a mapping; and it is this that is told.
2. The loading fails over a value exactly if the file is YAML with a value that cannot be.
3. The system stops the loading exactly if it refuses to say whether the file is there.
4. Otherwise the file is a mapping, which may be empty.
5. If a setting that is a text, or several, holds a number in this mapping that is too long to be written,
   there are no settings.  If none does, there are settings, for the directory of the file, and

   * they can be used;
   * a setting takes what it can use;
   * a setting is as usual if its key is missing, or if its value is null, a truth value or a mapping, or,
     where a number is asked for, a fraction, a text that spells no whole number, or a number that is too
     low;
   * a setting is the same in the settings of any other file with the same pairs of its own key, whatever
     else is in that file. -/
theorem load_valid (found : Settings.place d path = .ok place)
    (inside : directoryOf d place = .ok root) :
    (∀ e, load d path = .error (.file e) ↔ Says d place (.error e))
    ∧ (∀ f, load d path = .error (.value f) ↔ Jams d place f)
    ∧ (∀ f, load d path = .error (.system f) ↔ d.exists place = .error f)
    ∧ ((∀ e, ¬ Says d place (.error e)) → (∀ f, ¬ Jams d place f) →
        (∀ f, d.exists place ≠ .error f) → ∃ pairs, Says d place (.ok pairs))
    ∧ ∀ pairs, Says d place (.ok pairs) →
        (holdsLong pairs = true → load d path = .error (.unwritable .tooLong))
        ∧ (holdsLong pairs = false → ∃ s, load d path = .ok s ∧ s.root = root ∧ s.IsValid
          ∧ (∀ k : Setting, k.Takes s (.atKey k.key pairs))
          ∧ (∀ k : Setting, k.own pairs = [] ∨ k.PassesOver (.atKey k.key pairs) → k.Agree s { root })
          ∧ ∀ (k : Setting) (d' : Disk) (path' root' : String) (pairs' : List (Value × Value))
              (s' : Settings), Holds d' path' root' (.ok pairs') → load d' path' = .ok s' →
              k.own pairs' = k.own pairs → k.Agree s' s) := by
  have hload := load_eq_loadFrom found inside
  refine ⟨fun e => ⟨reason_of_load found inside, fun h => load_of_holds (.file found inside h)⟩,
    fun f => ⟨reason_of_load found inside, fun h => by rw [hload, loadFrom_of_jams h]⟩,
    fun f => ⟨reason_of_load found inside, fun h => by rw [hload, loadFrom_of_refused h]⟩, ?_, ?_⟩
  · intro usable possible answered
    rcases load_outcomes found inside with ⟨e, he, -⟩ | ⟨f, hf, -⟩ | ⟨f, hf, -⟩ | ⟨pairs, hpairs, -⟩
    · exact absurd he (usable e)
    · exact absurd hf (possible f)
    · exact absurd hf (answered f)
    · exact ⟨pairs, hpairs⟩
  · intro pairs hpairs
    have hload := load_of_pairs (.file found inside hpairs)
    constructor
    · intro hlong
      rw [hload, if_pos hlong]
    · intro hshort
      rw [if_neg (by simp [hshort])] at hload
      refine ⟨said root pairs, hload, rfl, isValid_said root pairs, takes_said root pairs,
        fun k h => ?_, ?_⟩
      · exact agree_usual_of_passesOver (h.elim passesOver_of_own_eq_nil id)
      · intro k d' path' root' pairs' s' h' hload' same
        rw [eq_said_of_load h' hload']
        exact agree_said_of_own same

end Settings

namespace Sample

/-- Settings with a value that is too low, one that is no number, and one of another kind. -/
def useless : String := "total: -3\nskip: lots\nworkers: 0\nprefixes: \x7ba: b\x7d\n"

/-- A directory with a settings file. -/
def shelf : Disk where
  top := .directory true
    (.entry (.text ".hotspots.yml") (.file (Utf8.encode useless.toList) false) .none)
  cwd := []
  home := "/"

end Sample

namespace Settings

/-- **A file of useless values** leaves the settings as usual, and one that is missing as well. -/
theorem load_valid_useless : ∃ s, load Sample.shelf "." = .ok s ∧ s.total = 50 ∧ s.skip = 0
    ∧ s.workers = none ∧ s.prefixes = [] ∧ s.git = "git" := by
  have hcheck : (Sample.pairs? (Yaml.read Sample.useless.toList)).any (fun pairs =>
      !holdsLong pairs && (Value.atKey "total" pairs).whole? == some (-3)
        && (Value.atKey "skip" pairs).isText "lots"
        && (Value.atKey "workers" pairs).whole? == some 0
        && isSettings (.atKey "prefixes" pairs) && (Setting.git.own pairs).isEmpty) = true := by
    decide +kernel
  obtain ⟨pairs, hpairs, hvalues⟩ := Option.any_eq_true _ _ |>.mp hcheck
  simp only [Bool.and_eq_true, Bool.not_eq_true', beq_iff_eq, List.isEmpty_iff] at hvalues
  obtain ⟨⟨⟨⟨⟨hshort, htotal⟩, hskip⟩, hworkers⟩, hprefixes⟩, hgit⟩ := hvalues
  have hreads : Reads ".hotspots.yml" Sample.useless.toList (.ok pairs) :=
    .mapping (by decide +kernel) (Sample.eq_of_pairs? hpairs)
  have hread : Sample.shelf.read "/.hotspots.yml" = .ok (Utf8.encode Sample.useless.toList) := by
    decide +kernel
  have hplace : Settings.place Sample.shelf "." = .ok "/.hotspots.yml" := by decide +kernel
  have hroot : directoryOf Sample.shelf "/.hotspots.yml" = .ok "/" := by decide +kernel
  obtain ⟨s, hload, -, -, -, husual, -⟩ := ((load_valid hplace hroot).2.2.2.2 pairs
    (.text hread (by decide +kernel) hreads)).2 hshort
  refine ⟨s, hload, husual .total (.inr ?_), husual .skip (.inr ?_), husual .workers (.inr ?_),
    husual .prefixes (.inr ?_), husual .git (.inl hgit)⟩
  · exact .low rfl (Value.whole?_eq_some_iff.mp htotal) (by decide)
  · rw [Setting.key, Value.isText_iff.mp hskip]
    refine .text rfl fun n hspells => ?_
    have hnumber : Integer.read? "lots" = some n := Integer.read?_eq_some_iff.mpr hspells
    have hnone : Integer.read? "lots" = none := by decide
    exact Option.some_ne_none n (hnumber.symm.trans hnone)
  · exact .low rfl (Value.whole?_eq_some_iff.mp hworkers) (by decide)
  · exact .of_isSettings hprefixes

/-- **A number that is too long to be written** is neither told as an error of the file nor passed over. -/
theorem not_ofValue_usable : ¬ ∀ (root : String) (pairs : List (Value × Value)),
    ∃ s, ofValue root (.mapping pairs) = .ok s := by
  intro h
  -- the number is so large that it must not be computed
  obtain ⟨n, hn⟩ : ∃ n : Int, Integer.isShort n = false := by
    unfold Integer.isShort
    generalize Nat.pow 10 Integer.digitLimit = limit
    exact ⟨limit, decide_eq_false (Nat.lt_irrefl limit)⟩
  obtain ⟨s, hs⟩ := h "/" [(.text "git", .integer n)]
  have hvalue : Value.atKey "git" [(.text "git", .integer n)] = .integer n := rfl
  have hlong : holdsLong [(.text "git", .integer n)] = true := by
    rw [holdsLong, hvalue, Value.isLong, hn, Bool.not_false, Bool.or_true]
  rw [ofValue, ofPairs_eq, if_pos hlong] at hs
  simp only [Except.mapError, reduceCtorEq] at hs

end Settings

end FunctionChurn
