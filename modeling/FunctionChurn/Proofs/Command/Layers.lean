import FunctionChurn.Proofs.Arguments.Given
import FunctionChurn.Proofs.Command.Stages
import FunctionChurn.Proofs.Settings.Sharing

/-!
# Settings under the command line

The choices for a report come from two sources: what a settings file says, and what a command line gives.
A number on the command line takes the place of the one in the file, even if it is zero; texts are put
behind those of the file.

* `Options.Count` is a number of rows that both sources have a say in.
* `Options.Layered` are the choices that both sources make.
* **`Machine.run_layered`**: the report of a run is made with them.
-/

namespace FunctionChurn

open Yaml (Value)

namespace Options

/-- **A number of rows** from the values on the command line and the value in the file.  The last value on
the command line counts, then the one in the file if it is a whole number that is not negative, and then
the usual one. -/
inductive Count (given : List String) (v : Value) (usual : Int) : Int → Prop
  | given {text : String} {n : Int} (last : given.getLast? = some text)
      (spells : Integer.Spells text.toList n) (nonneg : 0 ≤ n) : Count given v usual n
  | configured {n : Int} (none : given = []) (rows : Settings.Rows usual v n) : Count given v usual n

/-- **The choices that a command line and the pairs of a settings file make.** -/
structure Layered (words : List String) (pairs : List (Value × Value)) (o : Options) : Prop where
  total : Count (Arguments.given words .total) (.atKey "total" pairs) 50 o.total
  skip : Count (Arguments.given words .skip) (.atKey "skip" pairs) 0 o.skip
  prefixes : o.prefixes
    = (Value.atKey "prefixes" pairs).words ++ Arguments.given words .pathPrefix
  invertMatch : o.invertMatch
    = (Value.atKey "invert_match" pairs).words ++ Arguments.given words .invertMatch
  excludeFunc : o.excludeFunc
    = (Value.atKey "exclude_func" pairs).words ++ Arguments.given words .excludeFunc
  git : o.git = ((Value.atKey "git" pairs).word?.filter (· ≠ "")).getD "git"

variable {given : List String} {v : Value} {usual n : Int}

/-- A number of rows is not negative if the usual one is not. -/
lemma Count.nonneg (h : Count given v usual n) (husual : 0 ≤ usual) : 0 ≤ n := by
  cases h with
  | given _ _ nonneg => exact nonneg
  | configured _ rows => exact rows.nonneg husual

/-- Both sources together ask for one number of rows. -/
lemma Count.unique {k : Int} (hn : Count given v usual n) (hk : Count given v usual k) : n = k := by
  cases hn with
  | given last spells =>
      cases hk with
      | given last' spells' =>
          obtain rfl := Option.some.inj (last.symm.trans last')
          exact spells.unique spells'
      | configured none => simp [none] at last
  | configured none rows =>
      cases hk with
      | given last => simp [none] at last
      | configured _ rows' => exact rows.unique rows'

/-- **The number of rows that is laid on top.** -/
lemma count_getD {number : Option Int}
    (hnumber : number = match given.getLast? with
      | some text => Integer.read? text
      | none => none)
    (hcounted : ∀ text ∈ given, ∃ n, Integer.read? text = some n ∧ 0 ≤ n) :
    Count given v usual (number.getD (Settings.rows usual v)) := by
  cases hlast : given.getLast? with
  | none =>
      rw [hlast] at hnumber
      rw [hnumber]
      exact .configured (List.getLast?_eq_none_iff.mp hlast) (Settings.rows_rows usual v)
  | some text =>
      obtain ⟨n, hread, hnonneg⟩ := hcounted text (List.mem_of_getLast? hlast)
      have hn : number = some n := by
        rw [hnumber, hlast]
        exact hread
      rw [hn]
      exact .given hlast (Integer.read?_eq_some_iff.mp hread) hnonneg

/-- **What a command line and a settings file say is what both choose.** -/
theorem layered_options {words : List String} {a : Arguments} (h : Arguments.read words = .ok a)
    (root : String) (pairs : List (Value × Value)) :
    Layered words pairs (a.options ((Settings.said root pairs).merge a.overrides)) := by
  obtain ⟨ws, hws, htook⟩ := Arguments.took_of_read h
  have hgiven : ∀ f, Arguments.given words f = f.valuesIn (Word.given ws) := fun f => by
    rw [Arguments.given, hws]
  have htotal : Flag.total ∈ Flag.counts := by decide
  have hskip : Flag.skip ∈ Flag.counts := by decide
  have htexts : ∀ f ∈ Flag.repeated, a.texts f = Arguments.given words f := fun f hf => by
    rw [htook.texts f hf, hgiven]
    cases f <;> rfl
  constructor
  · rw [hgiven]
    exact count_getD (htook.number _ htotal) (htook.counted _ htotal)
  · rw [hgiven]
    exact count_getD (htook.number _ hskip) (htook.counted _ hskip)
  · rw [← htexts _ (by decide)]
    rfl
  · rw [← htexts _ (by decide)]
    rfl
  · rw [← htexts _ (by decide)]
    rfl
  · rfl

end Options

/-! ## Both layers in a run -/

namespace Machine

variable {m : Machine} {words : List String} {a : Arguments} {j : Journal} {d : Disk}
  {path place root : String} {pairs : List (Value × Value)}

/-- **Settings under the command line.**  A run gets as far as its settings, and its settings file is not
there, says nothing, or is a mapping.

If a number in the file is too long to be written where a text is asked for, then no choices are made at
all.  Otherwise the settings are loaded, and

1. the report is made with the choices that the command line and the pairs of the mapping make;
2. the numbers of rows to be skipped and to be shown are not negative, so the rows that are shown are cut
   from the front of the ranking;
3. where the settings are held in a memory with lists that can be changed, laying the command line on top
   gives these choices, and leaves the settings that were loaded as they are, whatever becomes of the
   lists of the outcome. -/
theorem run_layered (h : Accepts words a) (h' : m.Reaches a j d path)
    (hplace : Settings.place d (a.config.getD path) = .ok place)
    (hroot : Settings.directoryOf d place = .ok root) (hsaid : Settings.Says d place (.ok pairs)) :
    (Settings.holdsLong pairs = true →
      m.run words = { ending := .escape (.settings (.unwritable .tooLong)), disk := d })
    ∧ (Settings.holdsLong pairs = false → ∃ loaded o,
        Settings.load d (a.config.getD path) = .ok loaded
        ∧ m.run words = m.print d j o loaded.workers
        ∧ Options.Layered words pairs o
        ∧ (0 ≤ o.total ∧ 0 ≤ o.skip ∧ ∀ rows, Reporter.shown o rows
            = ((ranked rows).drop o.skip.toNat).take o.total.toNat)
        ∧ ∀ (memory : Memory) (held : Settings.Held), held.IsIn memory → held.view memory = loaded →
            let (merged, memory') := held.merge a.overrides memory
            o = a.options (merged.view memory') ∧ held.view memory' = loaded
              ∧ ∀ address ∈ merged.lists, ∀ items,
                  held.view (memory'.write address items) = loaded) := by
  have hload := load_of_said hplace hroot hsaid
  rw [Settings.ofReport, Settings.ofPairs_eq] at hload
  rw [run_of_reaches h h', runAt, hload]
  constructor
  · intro hlong
    rw [if_pos hlong]
    rfl
  · intro hshort
    have hlayered := Options.layered_options h.read root pairs
    have htotal := hlayered.total.nonneg (by decide)
    have hskip := hlayered.skip.nonneg (by decide)
    rw [if_neg (by simp [hshort])]
    refine ⟨_, _, rfl, rfl, hlayered, ⟨htotal, hskip, fun rows => ?_⟩, ?_⟩
    · rw [Reporter.shown, ← window_nonneg, Int.toNat_of_nonneg htotal, Int.toNat_of_nonneg hskip]
    · intro memory held hin hview
      obtain ⟨hbelow, hwritten⟩ := held.view_write_merge hin a.overrides
      rw [← hview]
      exact ⟨congrArg a.options (held.view_merge hin a.overrides).symm, hbelow, hwritten⟩

end Machine

/-! ## Layers in a small project -/

namespace Sample

/-- Settings of every shape: a number in a text, a list of two kinds of items, a text where a list is
meant, and a number where a text is. -/
def settings : String :=
  "total: \" 1_0 \"\nskip: 7\nprefixes: [a, true]\nexclude_func: b\ngit: 3\n"

/-- A command line that gives a number twice, and a text. -/
def words : List String := ["-s", "4", "r", "-p", "x", "--skip=0"]

end Sample

namespace Machine

/-- In the small project the number of rows is that of the file, the number to be skipped is the last one
of the command line, and the prefixes are those of both. -/
theorem run_layered_project : ∃ o workers,
    (Sample.machine Sample.settings).run Sample.words
      = (Sample.machine Sample.settings).print (Sample.project Sample.settings)
          (Journal.configure 0 none) o workers
    ∧ o.total = 10 ∧ o.skip = 0 ∧ o.prefixes = ["a", "True", "x"] ∧ o.excludeFunc = ["b"]
    ∧ o.git = "3" := by
  have hcheck : (Sample.pairs? (Yaml.read Sample.settings.toList)).any (fun pairs =>
      !Settings.holdsLong pairs && (Value.atKey "total" pairs).whole? == some 10
        && (Value.atKey "prefixes" pairs).words == ["a", "True"]
        && (Value.atKey "exclude_func" pairs).words == ["b"]
        && (Value.atKey "git" pairs).word? == some "3") = true := by decide +kernel
  obtain ⟨pairs, hpairs, hvalues⟩ := Option.any_eq_true _ _ |>.mp hcheck
  simp only [Bool.and_eq_true, Bool.not_eq_true', beq_iff_eq] at hvalues
  obtain ⟨⟨⟨⟨hshort, htotal⟩, hprefixes⟩, hexclude⟩, hgit⟩ := hvalues
  have hreads : Settings.Reads ".hotspots.yml" Sample.settings.toList (.ok pairs) :=
    .mapping (by decide +kernel) (Sample.eq_of_pairs? hpairs)
  have hread : (Sample.project Sample.settings).read "/r/.hotspots.yml"
      = .ok (Utf8.encode Sample.settings.toList) := by decide +kernel
  have haccepts : Accepts Sample.words { root := some "r", skip := some 0, prefixes := ["x"] } :=
    ⟨by decide, by decide +kernel⟩
  have hreaches : (Sample.machine Sample.settings).Reaches
      { root := some "r", skip := some 0, prefixes := ["x"] } (Journal.configure 0 none)
      (Sample.project Sample.settings) "r" := ⟨rfl, by decide +kernel, by decide +kernel⟩
  have hplace : Settings.place (Sample.project Sample.settings) "r" = .ok "/r/.hotspots.yml" := by
    decide +kernel
  have hroot : Settings.directoryOf (Sample.project Sample.settings) "/r/.hotspots.yml" = .ok "/r" := by
    decide +kernel
  obtain ⟨loaded, o, -, hrun, hlayered, -⟩ := (run_layered haccepts hreaches hplace hroot
    (.text hread (by decide +kernel) hreads)).2 hshort
  have hlast : (Arguments.given Sample.words .skip).getLast? = some "0" := by decide +kernel
  refine ⟨o, loaded.workers, hrun, ?_, ?_, ?_, ?_, ?_⟩
  · exact hlayered.total.unique (.configured (by decide +kernel)
      (.asked (Value.whole?_eq_some_iff.mp htotal) (by decide)))
  · exact hlayered.skip.unique (.given hlast
      (Integer.read?_eq_some_iff.mp (by decide)) (by decide))
  · rw [hlayered.prefixes, hprefixes]
    decide +kernel
  · rw [hlayered.excludeFunc, hexclude]
    decide +kernel
  · rw [hlayered.git, hgit]
    decide

end Machine

end FunctionChurn
