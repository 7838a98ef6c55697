import FunctionChurn.Proofs.Decimal.Integer
import FunctionChurn.Settings.Basic

/-!
# What a setting takes of a value

A settings file can put any value under a key.  A setting takes of it what it can use and passes over
the rest, and only one thing stops it: a whole number with so many digits that it is never written.
What is taken is said here without that stop, and the stop by itself.

* `Value.Whole` is the number that a value is or spells, `Value.word?` its text, `Value.words` its
  texts.
* `Value.isLong` and `Value.holdsLong` say which values are not written, `Settings.holdsLong` in which
  mappings there is one.
* `Settings.Rows` is the number of rows that a value asks for.
* **`Settings.ofPairs_eq`**: the settings in the pairs of a mapping.
* **`Settings.ofPairs_items`**: the terms of a list setting, and where they are not the texts that the items
  have elsewhere.
-/

namespace FunctionChurn

namespace Yaml.Value

/-! ## Numbers -/

/-- **The whole number that a value is, or that its text spells.** -/
inductive Whole : Value → Int → Prop
  | integer (n : Int) : Whole (.integer n) n
  | text {s : String} {n : Int} (spells : Integer.Spells s.toList n) : Whole (.text s) n

/-- A value is used as the whole number that it is or spells. -/
theorem whole?_eq_some_iff {v : Value} {n : Int} : v.whole? = some n ↔ Whole v n := by
  constructor
  · intro h
    cases v with
    | integer k =>
        obtain rfl : k = n := Option.some.inj h
        exact .integer k
    | text s => exact .text (Integer.read?_eq_some_iff.mp h)
    | null | boolean | decimal | list | mapping | other => simp [whole?] at h
  · rintro (_ | spells)
    · rfl
    · exact Integer.read?_eq_some_iff.mpr spells

/-- A value is one number at most. -/
lemma Whole.unique {v : Value} {m n : Int} (hm : Whole v m) (hn : Whole v n) : m = n := by
  rw [← whole?_eq_some_iff] at hm hn
  exact Option.some.inj (hm.symm.trans hn)

/-! ## Texts -/

/-- **The text of a text or of a number.**  Nothing else has one, truth values least of all. -/
def word? : Value → Option String
  | text s => some s
  | integer n => some (toString n)
  | decimal x => some (Fraction.show x)
  | _ => none

lemma isText_iff {s : String} {v : Value} : v.isText s = true ↔ v = .text s := by
  cases v with
  | text t => simp [isText]
  | null | boolean | integer | decimal | list | mapping | other => simp [isText]

/-- The text of an item of a list. -/
def itemWord? : Value → Option String
  | boolean b => some (truthWord b)
  | v => v.word?

/-- **The texts of a value**: a text alone, or what the items of a list have. -/
def words : Value → List String
  | text s => [s]
  | list items => items.filterMap itemWord?
  | _ => []

/-- Whether a value is a whole number that is not written. -/
def isLong : Value → Bool
  | integer n => !Integer.isShort n
  | _ => false

/-- Whether a list holds such a number. -/
def holdsLong : Value → Bool
  | list items => items.any isLong
  | _ => false

lemma text?_eq (v : Value) : v.text? = if v.isLong then .error .tooLong else .ok v.word? := by
  cases v with
  | integer n =>
      -- the limit is so large that it must not be computed
      generalize hshort : Integer.isShort n = short
      unfold text? isLong word? Integer.show?
      simp only [hshort]
      cases short <;> rfl
  | null | boolean | decimal | text | list | mapping | other => rfl

lemma itemText?_eq (v : Value) :
    v.itemText? = if v.isLong then .error .tooLong else .ok v.itemWord? := by
  cases v with
  | boolean b => rfl
  | null | integer | decimal | text | list | mapping | other => simp only [itemText?, itemWord?, text?_eq]

lemma itemTexts_eq (items : List Value) :
    itemTexts items
      = if items.any isLong then .error .tooLong else .ok (items.filterMap itemWord?) := by
  induction items with
  | nil => rfl
  | cons v rest ih =>
      rw [itemTexts, itemText?_eq, ih, List.any_cons, List.filterMap_cons]
      cases v.isLong with
      | true => rfl
      | false =>
          cases rest.any isLong with
          | true => rfl
          | false => cases v.itemWord? <;> rfl

/-- **The texts of a value are had** unless one of them is not written. -/
theorem texts_eq (v : Value) :
    v.texts = if v.holdsLong then .error .tooLong else .ok v.words := by
  cases v with
  | list items => exact itemTexts_eq items
  | null | boolean | integer | decimal | text | mapping | other => rfl

end Yaml.Value

/-! ## Settings -/

namespace Settings

open Yaml (Value)

/-- The keys of the settings that are lists of texts. -/
def listKeys : List String := ["prefixes", "invert_match", "exclude_func"]

/-- **Whether a setting that is a text, or several, holds a number that is not written.** -/
def holdsLong (pairs : List (Value × Value)) : Bool :=
  (listKeys.any fun key => (Value.atKey key pairs).holdsLong) || (Value.atKey "git" pairs).isLong

/-- **The number of rows that a value asks for**: its whole number if that is not negative, and the
usual number of rows otherwise. -/
inductive Rows (usual : Int) (v : Value) : Int → Prop
  | asked {n : Int} (whole : v.Whole n) (nonneg : 0 ≤ n) : Rows usual v n
  | usual (unusable : ∀ n, v.Whole n → n < 0) : Rows usual v usual

lemma rows_rows (usual : Int) (v : Value) : Rows usual v (rows usual v) := by
  unfold rows
  split
  · next n hn =>
      have hwhole := Value.whole?_eq_some_iff.mp hn
      split
      · next hnonneg => exact .asked hwhole hnonneg
      · next hnegative =>
          refine .usual fun k hk => ?_
          obtain rfl : n = k := hwhole.unique hk
          exact Int.not_le.mp hnegative
  · next hnone =>
      refine .usual fun k hk => ?_
      rw [Value.whole?_eq_some_iff.mpr hk] at hnone
      contradiction

/-- A value asks for one number of rows. -/
lemma Rows.unique {usual : Int} {v : Value} {m n : Int} (hm : Rows usual v m) (hn : Rows usual v n) :
    m = n := by
  cases hm with
  | asked whole nonneg =>
      cases hn with
      | asked whole' => exact whole.unique whole'
      | usual unusable => exact absurd nonneg (Int.not_le.mpr (unusable _ whole))
  | usual unusable =>
      cases hn with
      | asked whole nonneg => exact absurd nonneg (Int.not_le.mpr (unusable _ whole))
      | usual => rfl

/-- A number of rows is not negative if the usual one is not. -/
lemma Rows.nonneg {usual : Int} {v : Value} {n : Int} (h : Rows usual v n) (husual : 0 ≤ usual) :
    0 ≤ n := by
  cases h with
  | asked _ nonneg => exact nonneg
  | usual => exact husual

lemma rows_eq_usual {usual : Int} {v : Value} (low : ∀ n, v.Whole n → n < 0) : rows usual v = usual :=
  (rows_rows usual v).unique (.usual low)

/-- A number of workers is the whole number of a value, and not less than one. -/
lemma crew_eq_some {v : Value} {n : Int} (h : crew v = some n) : v.Whole n ∧ 1 ≤ n := by
  obtain ⟨hwhole, hpositive⟩ := Option.filter_eq_some_iff.mp h
  exact ⟨Value.whole?_eq_some_iff.mp hwhole, of_decide_eq_true hpositive⟩

lemma crew_eq_none {v : Value} (low : ∀ n, v.Whole n → n < 1) : crew v = none := by
  cases h : crew v with
  | none => rfl
  | some n =>
      obtain ⟨hwhole, hleast⟩ := crew_eq_some h
      exact absurd hleast (Int.not_le.mpr (low n hwhole))

lemma crew_of_whole {v : Value} {n : Int} (whole : v.Whole n) (least : 1 ≤ n) : crew v = some n := by
  rw [crew, Value.whole?_eq_some_iff.mpr whole]
  exact Option.filter_some_pos (decide_eq_true (Int.lt_of_add_one_le least))

/-- What the pairs of a mapping say, with no regard to numbers that are not written. -/
def said (root : String) (pairs : List (Value × Value)) : Settings where
  root
  total := rows 50 (.atKey "total" pairs)
  skip := rows 0 (.atKey "skip" pairs)
  prefixes := (Value.atKey "prefixes" pairs).words
  invertMatch := (Value.atKey "invert_match" pairs).words
  excludeFunc := (Value.atKey "exclude_func" pairs).words
  git := ((Value.atKey "git" pairs).word?.filter (· ≠ "")).getD "git"
  workers := crew (.atKey "workers" pairs)

lemma program_eq (found : Option String) : program found = (found.filter (· ≠ "")).getD "git" := by
  cases found with
  | none => rfl
  | some s => by_cases h : s = "" <;> simp [program, Option.filter, h]

lemma program_ne_empty (found : Option String) : program found ≠ "" := by
  cases found with
  | none => decide
  | some s => by_cases h : s = "" <;> simp [program, h]

/-- **The settings in the pairs of a mapping** are what the pairs say, unless a number is not written.
-/
theorem ofPairs_eq (root : String) (pairs : List (Value × Value)) :
    ofPairs root pairs = if holdsLong pairs then .error .tooLong else .ok (said root pairs) := by
  rw [ofPairs, Value.texts_eq, Value.texts_eq, Value.texts_eq, Value.text?_eq, holdsLong, listKeys]
  simp only [List.any_cons, List.any_nil, Bool.or_false]
  cases (Value.atKey "prefixes" pairs).holdsLong with
  | true => rfl
  | false =>
      cases (Value.atKey "invert_match" pairs).holdsLong with
      | true => rfl
      | false =>
          cases (Value.atKey "exclude_func" pairs).holdsLong with
          | true => rfl
          | false =>
              cases (Value.atKey "git" pairs).isLong with
              | true => rfl
              | false =>
                  rw [said, ← program_eq]
                  rfl

end Settings

/-! ## Items of lists -/

namespace Yaml.Value

/-- Whether a value is a truth value. -/
def isBoolean : Value → Bool
  | boolean _ => true
  | _ => false

lemma exists_of_isBoolean {v : Value} (h : v.isBoolean = true) : ∃ b, v = .boolean b := by
  cases v with
  | boolean b => exact ⟨b, rfl⟩
  | null | integer | decimal | text | list | mapping | other => simp [isBoolean] at h

/-- An item of a list has the text that it has elsewhere, unless it is a truth value. -/
lemma itemWord?_of_not_isBoolean {v : Value} (h : v.isBoolean = false) : v.itemWord? = v.word? := by
  cases v with
  | boolean b => simp [isBoolean] at h
  | null | integer | decimal | text | list | mapping | other => rfl

/-- The items of a list have a text more for every truth value. -/
lemma length_filterMap_itemWord? (items : List Value) :
    (items.filterMap itemWord?).length
      = (items.filterMap word?).length + items.countP isBoolean := by
  induction items with
  | nil => rfl
  | cons v rest ih =>
      rw [List.filterMap_cons, List.filterMap_cons, List.countP_cons]
      cases hv : v.isBoolean with
      | true =>
          obtain ⟨b, rfl⟩ := exists_of_isBoolean hv
          simp only [itemWord?, word?, List.length_cons, if_true]
          omega
      | false =>
          rw [itemWord?_of_not_isBoolean hv]
          cases v.word? with
          | none => simpa using ih
          | some t =>
              simp only [List.length_cons, Bool.false_eq_true, if_false]
              omega

/-- The texts of the items are those that they have elsewhere if no item is a truth value, and only
then. -/
lemma filterMap_itemWord?_eq_iff (items : List Value) :
    items.filterMap itemWord? = items.filterMap word? ↔ ∀ v ∈ items, v.isBoolean = false := by
  constructor
  · intro h v hv
    have hcount := length_filterMap_itemWord? items
    rw [h, Nat.left_eq_add, List.countP_eq_zero] at hcount
    simpa using hcount v hv
  · exact fun h => List.filterMap_congr fun v hv => itemWord?_of_not_isBoolean (h v hv)

end Yaml.Value

namespace Settings

open Yaml (Value)

/-- The settings that are lists, with their keys. -/
def lists (s : Settings) : List (String × List String) :=
  listKeys.zip [s.prefixes, s.invertMatch, s.excludeFunc]

lemma mem_lists_said (root : String) {key : String} (listed : key ∈ listKeys)
    (pairs : List (Value × Value)) : (key, (Value.atKey key pairs).words) ∈ (said root pairs).lists := by
  simp only [listKeys, List.mem_cons, List.not_mem_nil, or_false] at listed
  rcases listed with rfl | rfl | rfl <;> simp [lists, listKeys, said]

/-- Where every number is written, the items of a list have texts. -/
lemma text?_of_mem {pairs : List (Value × Value)} {key : String} {items : List Value}
    (written : holdsLong pairs = false) (listed : key ∈ listKeys)
    (value : Value.atKey key pairs = .list items) {v : Value} (hv : v ∈ items) :
    v.text? = .ok v.word? := by
  have hlists : (listKeys.any fun key => (Value.atKey key pairs).holdsLong) = false :=
    (Bool.or_eq_false_iff.mp written).1
  have hitems : items.any Value.isLong = false := by
    simpa [value, Value.holdsLong] using List.any_eq_false.mp hlists key listed
  have hshort : v.isLong = false := by
    simpa using List.any_eq_false.mp hitems v hv
  rw [Value.text?_eq, hshort]
  rfl

/-- **What a list setting takes of a list**, if no number in the mapping is too long to be written: in
their order, what the items have for a text that is asked for elsewhere, and for every truth value its
word.  These are the texts that the items have elsewhere if there is no truth value, and only then. -/
theorem ofPairs_items (root : String) {pairs : List (Value × Value)} {key : String}
    {items : List Value} (listed : key ∈ listKeys) (value : Value.atKey key pairs = .list items)
    (written : holdsLong pairs = false) :
    ∃ s terms, ofPairs root pairs = .ok s ∧ (key, terms) ∈ s.lists
      ∧ (∀ v ∈ items, v.text? = .ok v.word?)
      ∧ terms = items.filterMap Value.itemWord?
      ∧ (terms = items.filterMap Value.word? ↔ ∀ v ∈ items, v.isBoolean = false)
      ∧ ∀ t ∈ terms, (∃ v ∈ items, v.text? = .ok (some t))
          ∨ ∃ b, .boolean b ∈ items ∧ t = Value.truthWord b := by
  have htext : ∀ v ∈ items, v.text? = .ok v.word? := fun v => text?_of_mem written listed value
  have hmem := mem_lists_said root listed pairs
  rw [value] at hmem
  refine ⟨said root pairs, items.filterMap Value.itemWord?, ?_, hmem, htext, rfl,
    Value.filterMap_itemWord?_eq_iff items, fun t ht => ?_⟩
  · rw [ofPairs_eq, if_neg (by simp [written])]
  · obtain ⟨v, hv, hword⟩ := List.mem_filterMap.mp ht
    cases hboolean : v.isBoolean with
    | false =>
        rw [Value.itemWord?_of_not_isBoolean hboolean] at hword
        exact .inl ⟨v, hv, by rw [htext v hv, hword]⟩
    | true =>
        obtain ⟨b, rfl⟩ := Value.exists_of_isBoolean hboolean
        exact .inr ⟨b, hv, (Option.some.inj hword).symm⟩

namespace Sample

/-- A list of a text, a truth value, nothing and a number. -/
def mixture : List Value := [.text "a", .boolean true, .null, .integer 3]

end Sample

/-- Of four items three have texts, and the truth value is one of them. -/
theorem ofPairs_items_mixture : ∃ s, ofPairs "/" [(.text "prefixes", .list Sample.mixture)] = .ok s
    ∧ ("prefixes", ["a", "True", "3"]) ∈ s.lists
    ∧ Sample.mixture.filterMap Value.word? = ["a", "3"] := by
  have hvalue : Value.atKey "prefixes" [(.text "prefixes", .list Sample.mixture)]
      = .list Sample.mixture := rfl
  obtain ⟨s, terms, hs, hmem, -, hterms, -⟩ := ofPairs_items "/" (by decide) hvalue (by decide +kernel)
  have hwords : Sample.mixture.filterMap Value.itemWord? = ["a", "True", "3"] := by decide +kernel
  rw [hterms, hwords] at hmem
  exact ⟨s, hs, hmem, by decide +kernel⟩

/-- **A list setting does not take the items as they are taken elsewhere**: a truth value is a term. -/
theorem not_ofPairs_items : ¬ ∀ (root : String) (pairs : List (Value × Value)) (key : String)
    (items : List Value) (s : Settings), key ∈ listKeys → Value.atKey key pairs = .list items →
    ofPairs root pairs = .ok s → (key, items.filterMap Value.word?) ∈ s.lists := by
  intro h
  have hmem := h "/" [(.text "prefixes", .list [.boolean true])] "prefixes" [.boolean true]
    { root := "/", prefixes := ["True"] } (by decide) rfl rfl
  exact absurd hmem (by decide)

end Settings

end FunctionChurn
