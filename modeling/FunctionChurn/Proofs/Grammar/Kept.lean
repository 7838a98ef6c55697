import FunctionChurn.Grammar.Registry
import Mathlib.Logic.Function.Basic
import Mathlib.Tactic.Common

/-!
# What the registry keeps

Grammars and queries are asked for in any order, while files come and go and loaders break and are mended.
What was loaded once is given out ever after; what could not be loaded leaves no trace.

* `GrammarCall` is a call, `Registry.perform` what comes of it with some supplies, and `Registry.after` what
  calls one after the other lead to.  A call looks at each of the supplies once, so it does not matter
  whether they change between two calls or during one.
* `Registry.grammar_cases` and `Registry.query_cases`: what loading can come to.
* `Registry.Grows` is what a call for a language may do to the registry, `Registry.grows_perform` that it
  does no more; `Registry.Extends` is that nothing is lost over several calls.
* `Registry.Sound`: a language with a query has a grammar.
* **`Registry.registry_kept`** is what holds after any calls.
-/

namespace FunctionChurn

/-! ## Calls -/

/-- **A call**, for a language. -/
inductive GrammarCall where
  | grammar (l : Language)
  | query (l : Language)
  | source (l : Language)

/-- What a call gives. -/
inductive Loaded where
  | grammar (g : Grammar)
  | query (q : Query)
  | source (text : List Char)
  deriving DecidableEq, Repr

namespace GrammarCall

/-- The language that a call is for. -/
def language : GrammarCall → Language
  | grammar l => l
  | query l => l
  | source l => l

/-- Whether a call asks for something that is kept. -/
def Keeps : GrammarCall → Prop
  | source _ => False
  | _ => True

end GrammarCall

namespace Registry

variable {r r' : Registry} {s : Supplies} {l : Language} {g : Grammar} {q : Query}

/-- **A call**: what it gives, and the registry it leaves. -/
def perform (r : Registry) (s : Supplies) : GrammarCall → Except GrammarError Loaded × Registry
  | .grammar l => ((r.grammar s l).1.map .grammar, (r.grammar s l).2)
  | .query l => ((r.query s l).1.map .query, (r.query s l).2)
  | .source l => ((s.querySource l).map .source, r)

/-- **The registry after some calls**, each with what it finds. -/
def after (r : Registry) (calls : List (Supplies × GrammarCall)) : Registry :=
  calls.foldl (fun r call => (r.perform call.1 call.2).2) r

@[simp] lemma after_cons (call : Supplies × GrammarCall) (calls : List (Supplies × GrammarCall)) :
    r.after (call :: calls) = (r.perform call.1 call.2).2.after calls := rfl

/-! ## What loading can come to -/

/-- **What asking for a grammar can come to**: the one that is there, a new one, or none. -/
lemma grammar_cases (r : Registry) (s : Supplies) (l : Language) :
    (∃ g, r.grammars l = some g ∧ r.grammar s l = (.ok g, r))
    ∨ (r.grammars l = none ∧ s.loader l = .working
      ∧ r.grammar s l = (.ok ⟨l, r.next⟩, r.addGrammar ⟨l, r.next⟩))
    ∨ (r.grammars l = none ∧ s.loader l ≠ .working ∧ ∃ e, r.grammar s l = (.error e, r)) := by
  rw [grammar]
  cases r.grammars l with
  | some g => exact .inl ⟨g, rfl, rfl⟩
  | none =>
      cases s.loader l with
      | absent => exact .inr (.inr ⟨rfl, Loader.noConfusion, _, rfl⟩)
      | failing reason => exact .inr (.inr ⟨rfl, Loader.noConfusion, _, rfl⟩)
      | working => exact .inr (.inl ⟨rfl, rfl, rfl⟩)

/-- **What asking for a query can come to**: the one that is there, a new one, or none; in the last two
cases its grammar was asked for. -/
lemma query_cases (r : Registry) (s : Supplies) (l : Language) :
    (∃ q, r.queries l = some q ∧ r.query s l = (.ok q, r))
    ∨ (r.queries l = none ∧ ∃ g r' source names, r.grammar s l = (.ok g, r')
      ∧ s.querySource l = .ok source ∧ s.compile l source = .ok names
      ∧ r.query s l = (.ok ⟨l, r'.next, names⟩, r'.addQuery ⟨l, r'.next, names⟩))
    ∨ (r.queries l = none
      ∧ ((∃ e, (r.grammar s l).1 = .error e)
        ∨ ∀ source names, s.querySource l = .ok source → s.compile l source ≠ .ok names)
      ∧ ∃ e, r.query s l = (.error e, (r.grammar s l).2)) := by
  rw [query]
  cases r.queries l with
  | some q => exact .inl ⟨q, rfl, rfl⟩
  | none =>
      rcases r.grammar s l with ⟨e | g, r'⟩
      · exact .inr (.inr ⟨rfl, .inl ⟨e, rfl⟩, e, rfl⟩)
      · cases hsource : s.querySource l with
        | error e =>
            exact .inr (.inr ⟨rfl, .inr fun source names h => by simp at h, e, rfl⟩)
        | ok source =>
            cases hnames : s.compile l source with
            | error reason =>
                refine .inr (.inr ⟨rfl, .inr fun source' names h => ?_, .queryInvalid l reason, by simp [hnames]⟩)
                rw [← Except.ok.inj h, hnames]
                simp
            | ok names => exact .inr (.inl ⟨rfl, g, r', source, names, rfl, rfl, hnames, by simp [hnames]⟩)

/-- A grammar that is there is given out, whatever the supplies. -/
lemma grammar_of_some (s : Supplies) (h : r.grammars l = some g) : r.grammar s l = (.ok g, r) := by
  rw [grammar, h]

/-- A query that is there is given out, whatever the supplies. -/
lemma query_of_some (s : Supplies) (h : r.queries l = some q) : r.query s l = (.ok q, r) := by
  rw [query, h]

/-- A grammar that is given out is there from then on. -/
lemma grammars_of_ok (h : (r.grammar s l).1 = .ok g) : (r.grammar s l).2.grammars l = some g := by
  rcases r.grammar_cases s l with ⟨g', hg, heq⟩ | ⟨-, -, heq⟩ | ⟨-, -, e, heq⟩ <;> rw [heq] at h ⊢
  · rw [← Except.ok.inj h]
    exact hg
  · rw [← Except.ok.inj h]
    exact if_pos rfl
  · contradiction

/-- A query that is given out is there from then on. -/
lemma queries_of_ok (h : (r.query s l).1 = .ok q) : (r.query s l).2.queries l = some q := by
  rcases r.query_cases s l with
    ⟨q', hq, heq⟩ | ⟨-, g, r', source, names, -, -, -, heq⟩ | ⟨-, -, e, heq⟩ <;> rw [heq] at h ⊢
  · rw [← Except.ok.inj h]
    exact hq
  · rw [← Except.ok.inj h]
    exact if_pos rfl
  · contradiction

/-! ## What a call may do -/

/-- **What a call for a language may do to the registry**: nothing is lost, nothing is done for another
language, and a query is added only where there is a grammar. -/
structure Grows (l : Language) (r r' : Registry) : Prop where
  grammars_other : ∀ k, k ≠ l → r'.grammars k = r.grammars k
  queries_other : ∀ k, k ≠ l → r'.queries k = r.queries k
  grammar_kept : ∀ g, r.grammars l = some g → r'.grammars l = some g
  query_kept : ∀ q, r.queries l = some q → r'.queries l = some q
  query_added : (r'.queries l).isSome → (r.queries l).isSome ∨ (r'.grammars l).isSome

lemma Grows.refl (l : Language) (r : Registry) : Grows l r r :=
  ⟨fun _ _ => rfl, fun _ _ => rfl, fun _ h => h, fun _ h => h, .inl⟩

lemma Grows.trans {r₁ r₂ r₃ : Registry} (h : Grows l r₁ r₂) (h' : Grows l r₂ r₃) : Grows l r₁ r₃ where
  grammars_other k hk := (h'.grammars_other k hk).trans (h.grammars_other k hk)
  queries_other k hk := (h'.queries_other k hk).trans (h.queries_other k hk)
  grammar_kept g hg := h'.grammar_kept g (h.grammar_kept g hg)
  query_kept q hq := h'.query_kept q (h.query_kept q hq)
  query_added hq := by
    rcases h'.query_added hq with hq | hg
    · refine (h.query_added hq).imp_right fun hg => ?_
      obtain ⟨g, hg⟩ := Option.isSome_iff_exists.mp hg
      exact Option.isSome_iff_exists.mpr ⟨g, h'.grammar_kept g hg⟩
    · exact .inr hg

/-- A grammar is added for its language. -/
lemma grows_addGrammar (h : r.grammars l = none) (n : Nat) : Grows l r (r.addGrammar ⟨l, n⟩) where
  grammars_other _ hk := if_neg hk
  queries_other _ _ := rfl
  grammar_kept g hg := absurd (h.symm.trans hg) (Option.some_ne_none g).symm
  query_kept _ hq := hq
  query_added hq := .inl hq

/-- A query is added for its language. -/
lemma grows_addQuery (h : r.queries l = none) (hg : r.grammars l = some g) (n : Nat)
    (names : List String) : Grows l r (r.addQuery ⟨l, n, names⟩) where
  grammars_other _ _ := rfl
  queries_other _ hk := if_neg hk
  grammar_kept _ hg := hg
  query_kept q hq := absurd (h.symm.trans hq) (Option.some_ne_none q).symm
  query_added _ := .inr (Option.isSome_iff_exists.mpr ⟨g, hg⟩)

/-- Asking for a grammar adds it at most. -/
lemma grammar_state (r : Registry) (s : Supplies) (l : Language) :
    (r.grammar s l).2 = r
    ∨ (r.grammars l = none ∧ s.loader l = .working
      ∧ (r.grammar s l).2 = r.addGrammar ⟨l, r.next⟩) := by
  rcases r.grammar_cases s l with ⟨g, -, heq⟩ | ⟨hnone, hloader, heq⟩ | ⟨-, -, e, heq⟩
  · exact .inl (by rw [heq])
  · exact .inr ⟨hnone, hloader, by rw [heq]⟩
  · exact .inl (by rw [heq])

/-- Asking for a grammar leaves the queries alone. -/
lemma queries_grammar (r : Registry) (s : Supplies) (l : Language) :
    (r.grammar s l).2.queries = r.queries := by
  rcases r.grammar_state s l with heq | ⟨-, -, heq⟩ <;> rw [heq]
  rfl

lemma grows_grammar (r : Registry) (s : Supplies) (l : Language) : Grows l r (r.grammar s l).2 := by
  rcases r.grammar_state s l with heq | ⟨hnone, -, heq⟩ <;> rw [heq]
  · exact .refl l r
  · exact grows_addGrammar hnone _

lemma grows_query (r : Registry) (s : Supplies) (l : Language) : Grows l r (r.query s l).2 := by
  have hgrammar := r.grows_grammar s l
  rcases r.query_cases s l with
    ⟨q, -, heq⟩ | ⟨hnone, g, r', source, names, hgot, -, -, heq⟩ | ⟨-, -, e, heq⟩ <;> rw [heq]
  · exact .refl l r
  · have hg : (r.grammar s l).2.grammars l = some g := grammars_of_ok (by rw [hgot])
    rw [← r.queries_grammar s l] at hnone
    rw [hgot] at hgrammar hg hnone
    exact hgrammar.trans (grows_addQuery hnone hg _ names)
  · exact hgrammar

/-- **A call grows the registry** for its language. -/
theorem grows_perform (r : Registry) (s : Supplies) (c : GrammarCall) :
    Grows c.language r (r.perform s c).2 := by
  cases c with
  | grammar l => exact r.grows_grammar s l
  | query l => exact r.grows_query s l
  | source l => exact .refl l r

/-- **A call that fails** adds at most the grammar of its language, which was loaded. -/
theorem perform_failed {s : Supplies} {c : GrammarCall} {e : GrammarError}
    (h : (r.perform s c).1 = .error e) :
    (r.perform s c).2 = r
    ∨ (r.grammars c.language = none ∧ s.loader c.language = .working
      ∧ (r.perform s c).2 = r.addGrammar ⟨c.language, r.next⟩) := by
  cases c with
  | grammar l => exact r.grammar_state s l
  | source l => exact .inl rfl
  | query l =>
      rw [perform] at h ⊢
      rcases r.query_cases s l with
        ⟨q, -, heq⟩ | ⟨-, g, r', source, names, -, -, -, heq⟩ | ⟨-, -, e', heq⟩ <;> rw [heq] at h ⊢
      · contradiction
      · contradiction
      · exact r.grammar_state s l

/-! ## Over several calls -/

/-- **Nothing is lost** from one registry to another. -/
structure Extends (r r' : Registry) : Prop where
  grammar : ∀ l g, r.grammars l = some g → r'.grammars l = some g
  query : ∀ l q, r.queries l = some q → r'.queries l = some q

/-- A language with a query has a grammar. -/
def Sound (r : Registry) : Prop := ∀ l, (r.queries l).isSome → (r.grammars l).isSome

lemma Grows.extends (h : Grows l r r') : Extends r r' where
  grammar k g hg := by
    by_cases hk : k = l
    · exact hk ▸ h.grammar_kept g (hk ▸ hg)
    · rw [h.grammars_other k hk, hg]
  query k q hq := by
    by_cases hk : k = l
    · exact hk ▸ h.query_kept q (hk ▸ hq)
    · rw [h.queries_other k hk, hq]

lemma Grows.sound (h : Grows l r r') (hr : r.Sound) : r'.Sound := by
  intro k hk
  by_cases hkl : k = l
  · subst hkl
    rcases h.query_added hk with hold | hg
    · obtain ⟨g, hg⟩ := Option.isSome_iff_exists.mp (hr k hold)
      exact Option.isSome_iff_exists.mpr ⟨g, h.grammar_kept g hg⟩
    · exact hg
  · rw [h.queries_other k hkl] at hk
    rw [h.grammars_other k hkl]
    exact hr k hk

/-- **Calls lose nothing.** -/
theorem extends_after (r : Registry) (calls : List (Supplies × GrammarCall)) :
    Extends r (r.after calls) := by
  induction calls generalizing r with
  | nil => exact ⟨fun _ _ h => h, fun _ _ h => h⟩
  | cons call calls ih =>
      have hstep := (r.grows_perform call.1 call.2).extends
      have hrest := ih (r.perform call.1 call.2).2
      exact ⟨fun l g hg => hrest.grammar l g (hstep.grammar l g hg),
        fun l q hq => hrest.query l q (hstep.query l q hq)⟩

/-- **Calls keep the registry sound.** -/
theorem Sound.after (h : r.Sound) (calls : List (Supplies × GrammarCall)) : (r.after calls).Sound := by
  induction calls generalizing r with
  | nil => exact h
  | cons call calls ih => exact ih ((r.grows_perform call.1 call.2).sound h)

/-- **What was given out is given out again**, after whatever calls. -/
theorem perform_again {s : Supplies} {c : GrammarCall} {x : Loaded} (hc : c.Keeps)
    (h : (r.perform s c).1 = .ok x) (calls : List (Supplies × GrammarCall)) (s' : Supplies) :
    (((r.perform s c).2.after calls).perform s' c).1 = .ok x := by
  have hextends := (r.perform s c).2.extends_after calls
  cases c with
  | source l => exact hc.elim
  | grammar l =>
      cases hg : (r.grammar s l).1 with
      | error e => simp [perform, hg, Except.map] at h
      | ok g =>
          have hthere := hextends.grammar l g (grammars_of_ok hg)
          rw [perform, hg] at h
          rw [perform, grammar_of_some _ hthere]
          exact h
  | query l =>
      cases hq : (r.query s l).1 with
      | error e => simp [perform, hq, Except.map] at h
      | ok q =>
          have hthere := hextends.query l q (queries_of_ok hq)
          rw [perform, hq] at h
          rw [perform, query_of_some _ hthere]
          exact h

/-! ## When a call succeeds -/

/-- **A grammar is given out** if it is there, or if it can be loaded now. -/
lemma grammar_ok_iff (r : Registry) (s : Supplies) (l : Language) :
    (∃ g, (r.grammar s l).1 = .ok g) ↔ (r.grammars l).isSome ∨ s.loader l = .working := by
  rcases r.grammar_cases s l with ⟨g, hg, heq⟩ | ⟨-, hloader, heq⟩ | ⟨hnone, hloader, e, heq⟩ <;> rw [heq]
  · exact iff_of_true ⟨g, rfl⟩ (.inl (Option.isSome_iff_exists.mpr ⟨g, hg⟩))
  · exact iff_of_true ⟨_, rfl⟩ (.inr hloader)
  · refine iff_of_false (fun ⟨g, hg⟩ => by contradiction) (not_or.mpr ⟨?_, hloader⟩)
    rw [hnone]
    exact Bool.false_ne_true

/-- **A query is given out** if it is there, or if its grammar is given out and its text can be read now. -/
lemma query_ok_iff (r : Registry) (s : Supplies) (l : Language) :
    (∃ q, (r.query s l).1 = .ok q)
      ↔ (r.queries l).isSome
        ∨ (∃ g, (r.grammar s l).1 = .ok g)
          ∧ ∃ source names, s.querySource l = .ok source ∧ s.compile l source = .ok names := by
  rcases r.query_cases s l with
    ⟨q, hq, heq⟩ | ⟨-, g, r', source, names, hgot, hsource, hnames, heq⟩ | ⟨hnone, hfault, e, heq⟩ <;>
    rw [heq]
  · exact iff_of_true ⟨q, rfl⟩ (.inl (Option.isSome_iff_exists.mpr ⟨q, hq⟩))
  · exact iff_of_true ⟨_, rfl⟩ (.inr ⟨⟨g, by rw [hgot]⟩, source, names, hsource, hnames⟩)
  · refine iff_of_false (fun ⟨q, hq⟩ => by contradiction) (not_or.mpr ⟨?_, ?_⟩)
    · rw [hnone]
      exact Bool.false_ne_true
    · rintro ⟨⟨g, hg⟩, source, names, hsource, hnames⟩
      rcases hfault with ⟨e', he⟩ | hno
      · rw [hg] at he
        contradiction
      · exact hno source names hsource hnames

/-! ## After any calls -/

lemma exists_map_ok {ε α β : Type} (f : α → β) (outcome : Except ε α) :
    (∃ y, outcome.map f = .ok y) ↔ ∃ x, outcome = .ok x := by
  cases outcome with
  | error e => exact iff_of_false (fun ⟨_, h⟩ => by contradiction) fun ⟨_, h⟩ => by contradiction
  | ok x => exact iff_of_true ⟨_, rfl⟩ ⟨_, rfl⟩

/-- **What the registry keeps.**  After any calls, each with supplies of its own,

1. a grammar or a query that is given out is given out again, the same one, by every later call for it;
2. with a query its grammar is there as well, and every later call for that gives the same one;
3. every language with a query has a grammar;
4. a call that fails leaves the queries alone, and of the grammars it adds at most the one of its
   language, which was missing and could be loaded;
5. a call succeeds if what it asks for is there or can be had now, whatever failed before;
6. a call does nothing for other languages. -/
theorem registry_kept {calls : List (Supplies × GrammarCall)} (hr : after {} calls = r) :
    (∀ (s : Supplies) (c : GrammarCall) (x : Loaded), c.Keeps → (r.perform s c).1 = .ok x →
      ∀ more s', (((r.perform s c).2.after more).perform s' c).1 = .ok x)
    ∧ (∀ (s : Supplies) (l : Language) (x : Loaded), (r.perform s (.query l)).1 = .ok x →
      ∃ g, ∀ more s', (((r.perform s (.query l)).2.after more).perform s' (.grammar l)).1 = .ok (.grammar g))
    ∧ (∀ l, (r.queries l).isSome → (r.grammars l).isSome)
    ∧ (∀ (s : Supplies) (c : GrammarCall) (e : GrammarError), (r.perform s c).1 = .error e →
      (r.perform s c).2.queries = r.queries
      ∧ ((r.perform s c).2.grammars = r.grammars
        ∨ r.grammars c.language = none ∧ s.loader c.language = .working
          ∧ ∃ g, g.language = c.language
            ∧ (r.perform s c).2.grammars = Function.update r.grammars c.language (some g)))
    ∧ (∀ (s : Supplies) (l : Language),
      ((∃ x, (r.perform s (.grammar l)).1 = .ok x) ↔ (r.grammars l).isSome ∨ s.loader l = .working)
      ∧ ((∃ x, (r.perform s (.query l)).1 = .ok x)
        ↔ (r.queries l).isSome
          ∨ ((r.grammars l).isSome ∨ s.loader l = .working)
            ∧ ∃ source names, s.querySource l = .ok source ∧ s.compile l source = .ok names)
      ∧ ((∃ x, (r.perform s (.source l)).1 = .ok x) ↔ ∃ source, s.querySource l = .ok source))
    ∧ ∀ (s : Supplies) (c : GrammarCall) (k : Language), k ≠ c.language →
      (r.perform s c).2.grammars k = r.grammars k ∧ (r.perform s c).2.queries k = r.queries k := by
  have hsound : r.Sound := hr ▸ Sound.after (fun _ h => by contradiction) calls
  refine ⟨fun s c x => perform_again, fun s l x hx => ?_, hsound, fun s c e he => ?_, fun s l => ?_,
    fun s c k hk => ?_⟩
  · -- the query that was given out is there, so its grammar is, and neither gets lost
    obtain ⟨q, hq⟩ := (exists_map_ok _ _).mp ⟨x, hx⟩
    have hthere : ((r.perform s (.query l)).2.queries l).isSome :=
      Option.isSome_iff_exists.mpr ⟨q, queries_of_ok hq⟩
    obtain ⟨g, hg⟩ := Option.isSome_iff_exists.mp
      ((r.grows_perform s (.query l)).sound hsound l hthere)
    refine ⟨g, fun more s' => ?_⟩
    rw [perform, grammar_of_some _ ((extends_after _ more).grammar l g hg)]
    rfl
  · rcases perform_failed he with heq | ⟨hnone, hloader, heq⟩ <;> rw [heq]
    · exact ⟨rfl, .inl rfl⟩
    · refine ⟨rfl, .inr ⟨hnone, hloader, ⟨c.language, r.next⟩, rfl, funext fun k => ?_⟩⟩
      rw [Function.update_apply]
      rfl
  · refine ⟨(exists_map_ok _ _).trans (r.grammar_ok_iff _ l), ?_, exists_map_ok _ _⟩
    rw [← r.grammar_ok_iff s l]
    exact (exists_map_ok _ _).trans (r.query_ok_iff s l)
  · have hgrows := r.grows_perform s c
    exact ⟨hgrows.grammars_other k hk, hgrows.queries_other k hk⟩

namespace Sample

/-- Grammars that can be loaded, and a query file for each language. -/
def mended : Supplies where
  loader _ := .working
  directory := "queries"
  queryFile _ := .ok (Utf8.encode "(_) @name".toList)
  compile _ := Query.compile

/-- The same without the files. -/
def broken : Supplies := { mended with queryFile := fun path => .error (.missing path) }

end Sample

/-- A query that could not be had is had once its file is there, and is kept when the file is gone. -/
theorem registry_kept_mended :
    (perform {} Sample.broken (.query .go)).1 = .error (.queryMissing .go)
    ∧ ∃ r, after {} [(Sample.broken, .query .go)] = r ∧ r.grammars .go = some ⟨.go, 0⟩
      ∧ (r.perform Sample.mended (.query .go)).1 = .ok (.query ⟨.go, 1, ["name"]⟩)
      ∧ ∀ more, (((r.perform Sample.mended (.query .go)).2.after more).perform Sample.broken
          (.query .go)).1 = .ok (.query ⟨.go, 1, ["name"]⟩) := by
  have hgiven : ((after {} [(Sample.broken, .query .go)]).perform Sample.mended (.query .go)).1
      = .ok (.query ⟨.go, 1, ["name"]⟩) := by decide +kernel
  refine ⟨rfl, _, rfl, rfl, hgiven, fun more => ?_⟩
  exact (registry_kept rfl).1 Sample.mended (.query .go) _ trivial hgiven more Sample.broken

end Registry

end FunctionChurn
