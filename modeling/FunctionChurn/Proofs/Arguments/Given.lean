import FunctionChurn.Arguments.Reading
import Mathlib.Data.List.Basic
import Mathlib.Tactic.Common

/-!
# What a command line gives

A command line that is accepted gives values to flags.  They can be listed without taking them: word
by word, a word of several flags taken apart, and a value looked for in the word of its flag or in
the next one.  The choices that are read are then those of the list.

* `Word.given` lists the flags of some words with their values, `Arguments.given` the values that a
  command line gives to one flag.
* `Arguments.Took` says what a list does to choices: under a flag that can be repeated the values are
  put behind those that were there, and of several numbers the last one counts.
* **`Arguments.took_of_read`**: what is read is what the list does to no choices at all.
-/

namespace FunctionChurn

/-! ## Flags with their values -/

/-- **The flags of some words with their values**, in order.  A flag without a value has the empty
text. -/
def Word.given : List Word → List (Flag × String)
  | [] => []
  | .flag use :: rest =>
      match Bundle.ofUse use with
      | .ok ⟨flags, .done⟩ => flags.map (·, "") ++ given rest
      | .ok ⟨flags, .unknown _⟩ => flags.map (·, "") ++ given rest
      | .ok ⟨flags, .valued f v⟩ => flags.map (·, "") ++ (f, v) :: given rest
      | .ok ⟨flags, .awaiting f⟩ =>
          match rest with
          | .plain v :: rest => flags.map (·, "") ++ (f, v) :: given rest
          | _ => []
      | .error _ => []
  | .plain _ :: rest => given rest
  | .dashes :: rest => given rest
  | .unknown _ :: rest => given rest

/-- The values of one flag in a list, in order. -/
def Flag.valuesIn (f : Flag) (us : List (Flag × String)) : List String :=
  (us.filter fun u => u.1 = f).map Prod.snd

namespace Flag

/-- The flags that can be repeated to say more. -/
def repeated : List Flag := [pathPrefix, invertMatch, excludeFunc]

/-- The flags for a number of rows. -/
def counts : List Flag := [total, skip]

@[simp] lemma valuesIn_nil (f : Flag) : f.valuesIn [] = [] := rfl

@[simp] lemma valuesIn_append (f : Flag) (us vs : List (Flag × String)) :
    f.valuesIn (us ++ vs) = f.valuesIn us ++ f.valuesIn vs := by
  rw [valuesIn, List.filter_append, List.map_append]
  rfl

lemma valuesIn_singleton (f g : Flag) (v : String) :
    f.valuesIn [(g, v)] = if f = g then [v] else [] := by
  by_cases h : g = f
  · simp [valuesIn, h]
  · simp [valuesIn, h, Ne.symm h]

end Flag

namespace Arguments

/-- The texts under a flag that can be repeated. -/
def texts (a : Arguments) : Flag → List String
  | .pathPrefix => a.prefixes
  | .invertMatch => a.invertMatch
  | .excludeFunc => a.excludeFunc
  | _ => []

/-- The number under a flag for one. -/
def number (a : Arguments) : Flag → Option Int
  | .total => a.total
  | .skip => a.skip
  | _ => none

/-- **The values that a command line gives to a flag**, in order. -/
def given (words : List String) (f : Flag) : List String :=
  match Word.classifyAll words with
  | .ok ws => f.valuesIn (Word.given ws)
  | .error _ => []

/-! ## Taking values -/

/-- **What flags with their values do to choices.** -/
structure Took (us : List (Flag × String)) (a b : Arguments) : Prop where
  texts : ∀ f ∈ Flag.repeated, b.texts f = a.texts f ++ f.valuesIn us
  /-- The last value counts. -/
  number : ∀ f ∈ Flag.counts,
    b.number f = match (f.valuesIn us).getLast? with
      | some v => Integer.read? v
      | none => a.number f
  /-- Every value is a number of rows. -/
  counted : ∀ f ∈ Flag.counts, ∀ v ∈ f.valuesIn us, ∃ n, Integer.read? v = some n ∧ 0 ≤ n

namespace Took

variable {a b c : Arguments} {us vs : List (Flag × String)}

/-- Choices that differ neither in texts nor in numbers. -/
lemma of_eq (htexts : b.texts = a.texts) (hnumber : b.number = a.number) : Took [] a b where
  texts f _ := by rw [htexts, Flag.valuesIn_nil, List.append_nil]
  number f _ := by rw [hnumber, Flag.valuesIn_nil, List.getLast?_nil]
  counted f _ v hv := by simp at hv

lemma refl (a : Arguments) : Took [] a a := of_eq rfl rfl

/-- **One list after another.** -/
lemma trans (h : Took us a b) (h' : Took vs b c) : Took (us ++ vs) a c where
  texts f hf := by rw [h'.texts f hf, h.texts f hf, Flag.valuesIn_append, List.append_assoc]
  number f hf := by
    rw [h'.number f hf, h.number f hf, Flag.valuesIn_append, List.getLast?_append]
    cases (f.valuesIn vs).getLast? <;> rfl
  counted f hf v hv := by
    rw [Flag.valuesIn_append, List.mem_append] at hv
    exact hv.elim (h.counted f hf v) (h'.counted f hf v)

end Took

/-- A count that is accepted is a number of rows. -/
lemma count_eq_ok {f : Flag} {value : String} {n : Int} (h : count f value = .ok n) :
    Integer.read? value = some n ∧ 0 ≤ n := by
  unfold count at h
  split at h
  · simp at h
  · next k hk =>
      split at h
      · simp at h
      · next hnegative =>
          obtain rfl : k = n := by simpa using h
          exact ⟨hk, Int.not_lt.mp hnegative⟩

/-- What one flag does, flag by flag. -/
lemma Took.singleton {a b : Arguments} {g : Flag} {v : String}
    (htexts : ∀ f ∈ Flag.repeated, b.texts f = a.texts f ++ if f = g then [v] else [])
    (hnumber : ∀ f ∈ Flag.counts, b.number f = if f = g then Integer.read? v else a.number f)
    (hcounted : g ∈ Flag.counts → ∃ n, Integer.read? v = some n ∧ 0 ≤ n) : Took [(g, v)] a b where
  texts f hf := by rw [htexts f hf, Flag.valuesIn_singleton]
  number f hf := by
    rw [hnumber f hf, Flag.valuesIn_singleton]
    split <;> rfl
  counted f hf w hw := by
    rw [Flag.valuesIn_singleton] at hw
    split at hw
    · next hfg =>
        rw [List.mem_singleton.mp hw]
        exact hcounted (hfg ▸ hf)
    · simp at hw

/-- **One flag with its value.** -/
theorem took_of_take {a b : Arguments} {g : Flag} {v : String} (h : a.take g v = .ok b) :
    Took [(g, v)] a b := by
  cases g with
  | help => simp [take] at h
  | root | pathPrefix | invertMatch | excludeFunc | logLevel | logFile | config | noProgress =>
      obtain rfl := Except.ok.inj h
      exact .singleton (by simp [Flag.repeated, texts]) (by simp [Flag.counts, number])
        (by simp [Flag.counts])
  | total =>
      cases hcount : count .total v with
      | error e => simp [take, hcount, Except.map] at h
      | ok n =>
          obtain ⟨hread, hnonneg⟩ := count_eq_ok hcount
          simp only [take, hcount, Except.map, Except.ok.injEq] at h
          subst h
          exact .singleton (by simp [Flag.repeated, texts]) (by simp [Flag.counts, number, hread])
            fun _ => ⟨n, hread, hnonneg⟩
  | skip =>
      cases hcount : count .skip v with
      | error e => simp [take, hcount, Except.map] at h
      | ok n =>
          obtain ⟨hread, hnonneg⟩ := count_eq_ok hcount
          simp only [take, hcount, Except.map, Except.ok.injEq] at h
          subst h
          exact .singleton (by simp [Flag.repeated, texts]) (by simp [Flag.counts, number, hread])
            fun _ => ⟨n, hread, hnonneg⟩

/-- Flags without a value. -/
lemma took_of_takeAll : ∀ {flags : List Flag} {a b : Arguments}, a.takeAll flags = .ok b →
    Took (flags.map (·, "")) a b
  | [], a, b, h => by
      obtain rfl := Except.ok.inj h
      exact .refl a
  | f :: flags, a, b, h => by
      cases htake : a.take f "" with
      | error e => simp [takeAll, htake, bind, Except.bind] at h
      | ok a' =>
          simp only [takeAll, htake, bind, Except.bind] at h
          exact (took_of_take htake).trans (took_of_takeAll h)

/-- Flags without a value, and one with a value behind them. -/
lemma exists_take {flags : List Flag} {f : Flag} {v : String} {a b : Arguments}
    {go : Arguments → Except Exit Arguments}
    (h : (do go (← (← a.takeAll flags).take f v)) = .ok b) :
    ∃ a', Took (flags.map (·, "") ++ [(f, v)]) a a' ∧ go a' = .ok b := by
  cases hflags : a.takeAll flags with
  | error e => simp [hflags, bind, Except.bind] at h
  | ok a₁ =>
      cases htake : a₁.take f v with
      | error e => simp [hflags, htake, bind, Except.bind] at h
      | ok a₂ =>
          simp only [hflags, htake, bind, Except.bind] at h
          exact ⟨a₂, (took_of_takeAll hflags).trans (took_of_take htake), h⟩

/-! ## Reading -/

/-- **What is consumed is what the words give.** -/
theorem took_of_consume : ∀ {ws : List Word} {a b : Arguments} {state : RootState}
    {extras : List String}, a.consume state extras ws = .ok b → Took (Word.given ws) a b
  | [], a, b, _, extras, h => by
      rw [consume] at h
      split at h
      · obtain rfl := Except.ok.inj h
        exact .refl a
      · simp at h
  | .plain s :: rest, a, b, state, extras, h => by
      rw [consume] at h
      rw [Word.given]
      split at h
      · have hroot : Took [] a { a with root := some s } :=
          .of_eq (by funext f; cases f <;> rfl) (by funext f; cases f <;> rfl)
        simpa using hroot.trans (took_of_consume h)
      · exact took_of_consume h
  | .dashes :: rest, a, b, state, extras, h => by
      rw [Word.given]
      cases state with
      | awaited | justMet | met =>
          rw [consume] at h
          exact took_of_consume h
  | .unknown s :: rest, a, b, state, extras, h => by
      rw [consume] at h
      rw [Word.given]
      exact took_of_consume h
  | .flag use :: rest, a, b, state, extras, h => by
      rw [consume] at h
      rw [Word.given]
      split at h
      · simp at h
      · next flags hbundle =>
          rw [hbundle]
          cases hflags : a.takeAll flags with
          | error e => simp [hflags, bind, Except.bind] at h
          | ok a' =>
              simp only [hflags, bind, Except.bind] at h
              exact (took_of_takeAll hflags).trans (took_of_consume h)
      · next flags s hbundle =>
          rw [hbundle]
          cases hflags : a.takeAll flags with
          | error e => simp [hflags, bind, Except.bind] at h
          | ok a' =>
              simp only [hflags, bind, Except.bind] at h
              exact (took_of_takeAll hflags).trans (took_of_consume h)
      · next flags f v hbundle =>
          rw [hbundle]
          obtain ⟨a', htook, hrest⟩ := exists_take h
          simpa using htook.trans (took_of_consume hrest)
      · next flags f hbundle =>
          rw [hbundle]
          dsimp only at h ⊢
          split at h
          · next v rest =>
              obtain ⟨a', htook, hrest⟩ := exists_take h
              simpa using htook.trans (took_of_consume hrest)
          · simp at h

/-- **What is read is what the command line gives.** -/
theorem took_of_read {words : List String} {a : Arguments} (h : read words = .ok a) :
    ∃ ws, Word.classifyAll words = .ok ws ∧ Took (Word.given ws) {} a := by
  unfold read at h
  split at h
  · simp at h
  · next ws hws => exact ⟨ws, hws, took_of_consume h⟩

end Arguments

end FunctionChurn
