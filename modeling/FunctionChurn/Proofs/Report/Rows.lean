import FunctionChurn.Proofs.Report.Sites

/-!
# Every function is reported once, with its own history

The rows of a report and the calls that are made for it are two lists that have to fit together: the
reply to a call must end up in the row of the function that was asked for.

* `Surroundings.nodup_sites`: no site is listed twice.
* `Surroundings.map_row_sites`: the sites as rows, written out as the concatenation over languages,
  files and definitions.
* **`Surroundings.rows_and_calls`** puts the two lists side by side.
-/

namespace FunctionChurn

open Source

namespace Surroundings

variable (s : Surroundings) (o : Options)

/-! ## No site twice -/

/-- A file has no site twice, since its definitions stand at different places. -/
lemma nodup_sitesIn (f : SourceFile) : (s.sitesIn o f).Nodup := by
  have hdefs : (s.workshop.definitions f).Nodup :=
    (s.workshop.pairwise_definitions f).imp fun hlt heq => by
      rw [heq] at hlt
      exact Nat.lt_irrefl _ hlt
  refine (hdefs.filter _).map ?_
  intro d e hde
  exact congrArg Site.definition hde

/-- A language has no site twice. -/
lemma nodup_sitesOf (h : (s.discovered o).Nodup) (l : Language) : (s.sitesOf o l).Nodup := by
  unfold sitesOf
  split
  · refine List.nodup_flatMap.mpr ⟨fun f _ => s.nodup_sitesIn o f, ?_⟩
    refine (h.filter _).imp fun {f g} hne p hf hg => ?_
    exact hne ((file_of_mem_sitesIn hf).symm.trans (file_of_mem_sitesIn hg))
  · exact List.nodup_nil

/-- **No site is listed twice**, if no file is. -/
theorem nodup_sites (h : (s.listing o.root).Nodup) : (s.sites o).Nodup := by
  have hfiles : (s.discovered o).Nodup := nodup_discover h
  have hsearched : Language.searched.Nodup := by decide
  refine List.nodup_flatMap.mpr ⟨fun l _ => s.nodup_sitesOf o hfiles l, ?_⟩
  refine hsearched.imp fun {l m} hne p hl hm => ?_
  exact hne ((file_of_mem_sitesOf hl).2.symm.trans (file_of_mem_sitesOf hm).2)

/-! ## Rows and calls -/

/-- The sites of the languages that can be searched. -/
lemma sites_eq : s.sites o
    = (Language.searched.filter s.serves).flatMap fun l =>
        ((s.discovered o).filter (·.language = l)).flatMap (s.sitesIn o) := by
  rw [sites, flatMap_filter]
  exact List.flatMap_congr fun l _ => rfl

/-- **The rows of all sites**, written out. -/
theorem map_row_sites : (s.sites o).map (s.rowAt o)
    = (Language.searched.filter s.serves).flatMap fun l =>
        ((s.discovered o).filter (·.language = l)).flatMap fun f =>
          ((s.workshop.definitions f).filter fun d => !o.drops d.shown).map fun d =>
            ⟨f.path, d.name.line, d.shown, s.changesAt o f.path d.shown⟩ := by
  rw [sites_eq, List.map_flatMap]
  refine List.flatMap_congr fun l _ => ?_
  rw [List.map_flatMap]
  refine List.flatMap_congr fun f _ => ?_
  rw [sitesIn, List.map_map]
  rfl

variable {s o}

/-- **Every function is reported once, with its own history.**  When there is a report, then

1. its rows are, language by language, file by file as they were discovered, and function by
   function, those of the functions whose shown names hold no term, each with the path of its file;
2. the functions of a file are those that an extractor finds in it alone, in the order of the bytes
   of their names;
3. no function is listed twice;
4. the git program was called once to begin with, and then once for each row in order, about the
   name in the row and the path of its file as seen from the root;
5. the reply to the call for a row was had, and the row holds the number of commits in it. -/
theorem rows_and_calls {t : Trace} {rows : List Row} (h : s.collected o = (t, .ok rows)) :
    (rows = (Language.searched.filter s.serves).flatMap fun l =>
        ((s.discovered o).filter (·.language = l)).flatMap fun f =>
          ((s.workshop.definitions f).filter fun d => !o.drops d.shown).map fun d =>
            ⟨f.path, d.name.line, d.shown, s.changesAt o f.path d.shown⟩)
    ∧ (∀ f, s.serves f.language →
        Extractor.found { language := f.language, files := [f] } s.workshop
          = (s.workshop.definitions f).map (Definition.element f.path)
        ∧ (s.workshop.definitions f).Pairwise fun d e => d.name.offset < e.name.offset)
    ∧ (rows = (s.sites o).map (s.rowAt o) ∧ ((s.listing o.root).Nodup → (s.sites o).Nodup))
    ∧ t.calls = (Reporter.inspector o).probeCall :: rows.map (fun row =>
        (Reporter.inspector o).call
          ["log", "-L", ":" ++ row.name ++ ":" ++ Path.relative s.cwd row.file o.root])
    ∧ ∀ row ∈ rows, ∃ reply, s.git (s.callAt o row.file row.name) = .ok reply
        ∧ row.freq = reply.changes := by
  have hrows : (s.collected o).2 = .ok rows := congrArg Prod.snd h
  obtain ⟨-, -, hanswers, heq⟩ := (s.collected_eq_ok_iff o rows).mp hrows
  refine ⟨heq.trans (s.map_row_sites o), fun f hserved => ⟨?_, s.workshop.pairwise_definitions f⟩,
    ⟨heq, s.nodup_sites o⟩, ?_, ?_⟩
  · refine Extractor.found_singleton s.workshop ?_
    simp only [serves, Bool.and_eq_true, Option.isNone_iff_eq_none] at hserved
    exact hserved.2
  · have hcalls := calls_collected hrows
    rw [h] at hcalls
    rw [hcalls, heq, List.map_map]
    rfl
  · intro row hrow
    rw [heq] at hrow
    obtain ⟨p, hp, rfl⟩ := List.mem_map.mp hrow
    obtain ⟨reply, hreply⟩ := hanswers p hp
    refine ⟨reply, hreply, ?_⟩
    simp only [rowAt, changesAt, hreply]

/-- The report of the small tree asks for its seven functions in their order. -/
theorem rows_and_calls_tree : ∃ t, Sample.tree.collected {} = (t, .ok Sample.rows)
    ∧ t.calls = [["git", "rev-parse", "--is-inside-work-tree"],
        ["git", "log", "-L", ":(*T) three:b.go"], ["git", "log", "-L", ":four:b.go"],
        ["git", "log", "-L", ":one:a.rs"], ["git", "log", "-L", ":two:a.rs"],
        ["git", "log", "-L", ":six:d.rs"], ["git", "log", "-L", ":seven:e.rs"],
        ["git", "log", "-L", ":five:c.lua"]].map fun arguments => ⟨arguments, "."⟩ := by
  have h : Sample.tree.collected {} = ((Sample.tree.collected {}).1, .ok Sample.rows) := by
    rw [← Sample.collected_tree]
  refine ⟨_, h, ?_⟩
  rw [(rows_and_calls h).2.2.2.1]
  decide +kernel

end Surroundings

end FunctionChurn
