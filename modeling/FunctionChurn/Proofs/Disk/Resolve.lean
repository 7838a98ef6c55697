import FunctionChurn.Disk.Resolve
import FunctionChurn.Proofs.Path

/-!
# Where a path leads

A path is followed name by name, and a link on the way is followed in its place.  How far that goes is
said here without the bound on links: a path leads somewhere *through so many links*, and the bound only
says which of these paths can be followed.  What the system refuses is a parameter: a path may name a place
that the run is not let to.

* `Node.Leads` is that relation, one rule for each kind of component, and `Node.LeadsFreely` where nothing is
  refused.
* **`Node.follow_eq_ok_iff`**: a path can be followed if it leads somewhere through no more links than
  are allowed.
* `Node.Leads.append`, `Node.Leads.split`, `Node.Leads.unique`: paths can be put together and cut, and
  lead to one place only.
* `Disk.Leads` is the same for a path as it is written; **`Disk.Leads.join`** goes on from a directory
  to what is behind it, however the path of the directory is spelled.
-/

namespace FunctionChurn

namespace Node

/-! ## The relation -/

/-- Whether there is a directory at a place. -/
def HasDirectory (top : Node) (here : List String) : Prop :=
  ∃ listable es, top.at? here = some (.directory listable es)

/-- **Components that lead from one place to another, through so many links.**  Each of them is read
in a directory, and looked up there if nothing bars it. -/
inductive Leads (top : Node) (bar : List String → Option Refusal) :
    Nat → List String → List String → List String → Prop
  | done (here : List String) : Leads top bar 0 here [] here
  /-- An empty component, or a dot. -/
  | stay {k : Nat} {here there todo : List String} {name : String} :
      top.HasDirectory here → name = "" ∨ name = "." → (name ≠ "" → bar here = none) →
        Leads top bar k here todo there → Leads top bar k here (name :: todo) there
  /-- One directory up. -/
  | back {k : Nat} {here there todo : List String} :
      top.HasDirectory here → bar here = none → Leads top bar k here.dropLast todo there →
        Leads top bar k here (".." :: todo) there
  /-- The name of a file or of a directory. -/
  | down {k : Nat} {here there todo : List String} {name : String} {node : Node} :
      top.HasDirectory here → ¬(name = "" ∨ name = ".") → name ≠ ".." → bar here = none →
        top.at? (here ++ [name]) = some node → (∀ target, node ≠ .link target) →
        Leads top bar k (here ++ [name]) todo there → Leads top bar k here (name :: todo) there
  /-- The name of a link, whose target is read in its place. -/
  | jump {k : Nat} {here there todo : List String} {name target : String} :
      top.HasDirectory here → ¬(name = "" ∨ name = ".") → name ≠ ".." → bar here = none →
        top.at? (here ++ [name]) = some (.link target) → target ≠ "" →
        Leads top bar k (linkStart here target) (components target ++ todo) there →
        Leads top bar (k + 1) here (name :: todo) there

/-- Components that lead from one place to another if nothing is refused. -/
abbrev LeadsFreely (top : Node) : Nat → List String → List String → List String → Prop :=
  top.Leads fun _ => none

variable {top : Node} {bar : List String → Option Refusal}

/-! ## Following -/

/-- Whatever is allowed, following is one pass to the next link. -/
lemma follow_eq_along (top : Node) (bar : List String → Option Refusal) :
    ∀ n : Nat, ∃ jump, top.follow bar n = top.along bar jump
  | 0 => ⟨_, rfl⟩
  | n + 1 => ⟨top.follow bar n, rfl⟩

section Passes

variable {jump : List String → List String → Except Obstacle Place} {here todo : List String}
  {name : String}

/-! What one pass does with the first component, if it is looked up in a directory. -/

lemma along_stay (hdir : top.HasDirectory here) (hname : name = "" ∨ name = ".")
    (hbar : name ≠ "" → bar here = none) :
    top.along bar jump here (name :: todo) = top.along bar jump here todo := by
  obtain ⟨listable, es, hhere⟩ := hdir
  rw [along, hhere]
  dsimp only
  by_cases hempty : name = ""
  · rw [if_pos hempty]
  · rw [if_neg hempty, hbar hempty]
    dsimp only
    rw [if_pos (hname.resolve_left hempty)]

lemma along_back (hdir : top.HasDirectory here) (hbar : bar here = none) :
    top.along bar jump here (".." :: todo) = top.along bar jump here.dropLast todo := by
  obtain ⟨listable, es, hhere⟩ := hdir
  rw [along, hhere]
  dsimp only
  rw [if_neg (by decide), hbar]
  dsimp only
  rw [if_neg (by decide), if_pos rfl]

lemma along_name (hdir : top.HasDirectory here) (hname : ¬(name = "" ∨ name = ".")) (hback : name ≠ "..")
    (hbar : bar here = none) : top.along bar jump here (name :: todo)
      = match top.at? (here ++ [name]) with
        | none => absence here name todo
        | some (.link target) =>
            if target = "" then .error .missing
            else jump (linkStart here target) (components target ++ todo)
        | some _ => top.along bar jump (here ++ [name]) todo := by
  obtain ⟨listable, es, hhere⟩ := hdir
  obtain ⟨hempty, hdot⟩ := not_or.mp hname
  rw [along, hhere]
  dsimp only
  rw [if_neg hempty, hbar]
  dsimp only
  rw [if_neg hdot]
  exact if_neg hback

lemma along_of_bar {r : Refusal} (hdir : top.HasDirectory here) (hname : name ≠ "")
    (hbar : bar here = some r) : top.along bar jump here (name :: todo) = .error (.refused r) := by
  obtain ⟨listable, es, hhere⟩ := hdir
  rw [along, hhere]
  dsimp only
  rw [if_neg hname, hbar]

end Passes

/-- A name that is not there leads to nothing. -/
lemma absence_ne_ok {here todo there : List String} {name : String} {node : Node} :
    absence here name todo ≠ .ok ⟨there, some node⟩ := by
  unfold absence
  split
  · simp
  · split <;> simp

/-- What one pass reaches is where the components lead, if that is so behind the links. -/
lemma leads_of_along {jump : List String → List String → Except Obstacle Place} {n : Nat}
    {there : List String} {node : Node}
    (hjump : ∀ here todo, jump here todo = .ok ⟨there, some node⟩ →
      ∃ k < n, Leads top bar k here todo there ∧ top.at? there = some node) :
    ∀ (cs here : List String), top.along bar jump here cs = .ok ⟨there, some node⟩ →
      ∃ k ≤ n, Leads top bar k here cs there ∧ top.at? there = some node
  | [], here, h => by
      simp only [along, Except.ok.injEq, Place.mk.injEq] at h
      obtain ⟨rfl, hnode⟩ := h
      exact ⟨0, Nat.zero_le n, .done here, hnode⟩
  | name :: todo, here, h => by
      -- one case for each kind of component; at a link the rest is left to `jump`
      have hdir : top.HasDirectory here := by
        rw [along] at h
        split at h
        · next listable es hhere => exact ⟨listable, es, hhere⟩
        · simp at h
        · simp at h
      by_cases hempty : name = ""
      · rw [along_stay hdir (.inl hempty) (fun hne => absurd hempty hne)] at h
        obtain ⟨k, hk, hleads, hnode⟩ := leads_of_along hjump todo here h
        exact ⟨k, hk, .stay hdir (.inl hempty) (fun hne => absurd hempty hne) hleads, hnode⟩
      · cases hbar : bar here with
        | some r =>
            rw [along_of_bar hdir hempty hbar] at h
            simp at h
        | none =>
            by_cases hdot : name = "."
            · rw [along_stay hdir (.inr hdot) (fun _ => hbar)] at h
              obtain ⟨k, hk, hleads, hnode⟩ := leads_of_along hjump todo here h
              exact ⟨k, hk, .stay hdir (.inr hdot) (fun _ => hbar) hleads, hnode⟩
            · by_cases hback : name = ".."
              · subst hback
                rw [along_back hdir hbar] at h
                obtain ⟨k, hk, hleads, hnode⟩ := leads_of_along hjump todo here.dropLast h
                exact ⟨k, hk, .back hdir hbar hleads, hnode⟩
              · have hname := not_or.mpr ⟨hempty, hdot⟩
                rw [along_name hdir hname hback hbar] at h
                split at h
                · exact absurd h absence_ne_ok
                · next target hlink =>
                    split at h
                    · simp at h
                    · next htarget =>
                        obtain ⟨k, hk, hleads, hnode⟩ := hjump _ _ h
                        exact ⟨k + 1, hk, .jump hdir hname hback hbar hlink htarget hleads, hnode⟩
                · next next hlink hnext =>
                    obtain ⟨k, hk, hleads, hnode⟩ := leads_of_along hjump todo (here ++ [name]) h
                    refine ⟨k, hk, .down hdir hname hback hbar hnext ?_ hleads, hnode⟩
                    rintro target rfl
                    exact hlink target rfl

/-- What can be followed leads there, through no more links than are allowed. -/
lemma leads_of_follow {there : List String} {node : Node} :
    ∀ (n : Nat) (here cs : List String), top.follow bar n here cs = .ok ⟨there, some node⟩ →
      ∃ k ≤ n, Leads top bar k here cs there ∧ top.at? there = some node
  | 0, here, cs, h => leads_of_along (fun _ _ hjump => by simp at hjump) cs here h
  | n + 1, here, cs, h => by
      refine leads_of_along (fun start todo hjump => ?_) cs here h
      obtain ⟨k, hk, hleads⟩ := leads_of_follow n start todo hjump
      exact ⟨k, Nat.lt_succ_of_le hk, hleads⟩

/-- Whether a reading goes on as another one, unless it is refused where `lax` has nothing against it. -/
def GoesOnUnless (lax bar : List String → Option Refusal) (read rest : Except Obstacle Place) : Prop :=
  read = rest ∨ ∃ here r, lax here = none ∧ bar here = some r ∧ read = .error (.refused r)

/-- **A path that leads somewhere is followed there**, and from there on with the links that are left,
unless the reading is refused where the path was let pass. -/
theorem follow_append_of_leads (bar : List String → Option Refusal) {lax : List String → Option Refusal}
    {k : Nat} {here cs there : List String} (h : Leads top lax k here cs there) : ∀ {n : Nat} (rest : List String), k ≤ n →
      GoesOnUnless lax bar (top.follow bar n here (cs ++ rest)) (top.follow bar (n - k) there rest) := by
  -- only the rule for links takes one of those that are allowed
  induction h with
  | done here => exact fun rest _ => .inl rfl
  | @stay k here there todo name hdir hname hlax _ ih =>
      intro n rest hn
      obtain ⟨jump, hfollow⟩ := follow_eq_along top bar n
      have hrest := ih rest hn
      rw [hfollow] at hrest ⊢
      rw [List.cons_append]
      by_cases hempty : name = ""
      · rwa [along_stay hdir hname fun hne => absurd hempty hne]
      · cases hbar : bar here with
        | some r => exact .inr ⟨here, r, hlax hempty, hbar, along_of_bar hdir hempty hbar⟩
        | none => rwa [along_stay hdir hname fun _ => hbar]
  | @back k here there todo hdir hlax _ ih =>
      intro n rest hn
      obtain ⟨jump, hfollow⟩ := follow_eq_along top bar n
      have hrest := ih rest hn
      rw [hfollow] at hrest ⊢
      rw [List.cons_append]
      cases hbar : bar here with
      | some r => exact .inr ⟨here, r, hlax, hbar, along_of_bar hdir (by decide) hbar⟩
      | none => rwa [along_back hdir hbar]
  | @down k here there todo name node hdir hname hback hlax hnode hlink _ ih =>
      intro n rest hn
      obtain ⟨jump, hfollow⟩ := follow_eq_along top bar n
      have hrest := ih rest hn
      rw [hfollow] at hrest ⊢
      rw [List.cons_append]
      cases hbar : bar here with
      | some r => exact .inr ⟨here, r, hlax, hbar, along_of_bar hdir (not_or.mp hname).1 hbar⟩
      | none =>
          rw [along_name hdir hname hback hbar, hnode]
          cases node with
          | link target => exact absurd rfl (hlink target)
          | file content executable => exact hrest
          | directory listable entries => exact hrest
  | @jump k here there todo name target hdir hname hback hlax hlink htarget _ ih =>
      intro n rest hn
      cases n with
      | zero => omega
      | succ m =>
          have hrest := ih rest (Nat.le_of_succ_le_succ hn)
          rw [List.append_assoc] at hrest
          rw [follow, List.cons_append, Nat.add_sub_add_right]
          cases hbar : bar here with
          | some r => exact .inr ⟨here, r, hlax, hbar, along_of_bar hdir (not_or.mp hname).1 hbar⟩
          | none =>
              rw [along_name hdir hname hback hbar, hlink]
              dsimp only
              rwa [if_neg htarget]

/-- A path that leads somewhere is followed there, unless the reading is refused. -/
lemma follow_of_leads (bar : List String → Option Refusal) {lax : List String → Option Refusal} {k n : Nat}
    {here cs there : List String} (h : Leads top lax k here cs there) (hk : k ≤ n) :
    GoesOnUnless lax bar (top.follow bar n here cs) (.ok ⟨there, top.at? there⟩) := by
  obtain ⟨jump, hfollow⟩ := follow_eq_along top bar (n - k)
  have hall := follow_append_of_leads bar h [] hk
  rwa [List.append_nil, hfollow, along] at hall

/-- **A path can be followed if it leads somewhere through no more links than are allowed.** -/
theorem follow_eq_ok_iff {n : Nat} {here cs there : List String} {node : Node} :
    top.follow bar n here cs = .ok ⟨there, some node⟩
      ↔ ∃ k ≤ n, Leads top bar k here cs there ∧ top.at? there = some node := by
  constructor
  · exact leads_of_follow n here cs
  · rintro ⟨k, hk, hleads, hnode⟩
    rcases follow_of_leads bar hleads hk with hok | ⟨_, r, hfree, hbar, -⟩
    · rw [hok, hnode]
    · rw [hfree] at hbar
      contradiction

/-! ## Putting together and cutting -/

namespace Leads

/-- **One path and then another.** -/
theorem append {j k : Nat} {here mid there as bs : List String} (h : Leads top bar j here as mid)
    (h' : Leads top bar k mid bs there) : Leads top bar (j + k) here (as ++ bs) there := by
  induction h with
  | done here => simpa using h'
  | stay hdir hname hbar _ ih => exact .stay hdir hname hbar (ih h')
  | back hdir hbar _ ih => exact .back hdir hbar (ih h')
  | down hdir hname hback hbar hnode hlink _ ih =>
      exact .down hdir hname hback hbar hnode hlink (ih h')
  | @jump j _ _ _ _ _ hdir hname hback hbar hlink htarget _ ih =>
      have hrest := ih h'
      rw [List.append_assoc] at hrest
      rw [Nat.add_right_comm]
      exact .jump hdir hname hback hbar hlink htarget hrest

/-- **A path can be cut at any component.** -/
theorem split {k : Nat} {here there cs : List String} (h : Leads top bar k here cs there) :
    ∀ {as bs : List String}, cs = as ++ bs →
      ∃ i j mid, Leads top bar i here as mid ∧ Leads top bar j mid bs there ∧ k = i + j := by
  induction h with
  | done here =>
      intro as bs hcut
      obtain ⟨rfl, rfl⟩ := List.append_eq_nil_iff.mp hcut.symm
      exact ⟨0, 0, here, .done here, .done here, rfl⟩
  | @stay k here there todo name hdir hname hbar hrest ih =>
      intro as bs hcut
      rcases List.cons_eq_append_iff.mp hcut with ⟨rfl, rfl⟩ | ⟨as', rfl, htodo⟩
      · exact ⟨0, k, here, .done here, .stay hdir hname hbar hrest, (Nat.zero_add k).symm⟩
      · obtain ⟨i, j, mid, hi, hj, hk⟩ := ih htodo
        exact ⟨i, j, mid, .stay hdir hname hbar hi, hj, hk⟩
  | @back k here there todo hdir hbar hrest ih =>
      intro as bs hcut
      rcases List.cons_eq_append_iff.mp hcut with ⟨rfl, rfl⟩ | ⟨as', rfl, htodo⟩
      · exact ⟨0, k, here, .done here, .back hdir hbar hrest, (Nat.zero_add k).symm⟩
      · obtain ⟨i, j, mid, hi, hj, hk⟩ := ih htodo
        exact ⟨i, j, mid, .back hdir hbar hi, hj, hk⟩
  | @down k here there todo name node hdir hname hback hbar hnode hlink hrest ih =>
      intro as bs hcut
      rcases List.cons_eq_append_iff.mp hcut with ⟨rfl, rfl⟩ | ⟨as', rfl, htodo⟩
      · exact ⟨0, k, here, .done here, .down hdir hname hback hbar hnode hlink hrest,
          (Nat.zero_add k).symm⟩
      · obtain ⟨i, j, mid, hi, hj, hk⟩ := ih htodo
        exact ⟨i, j, mid, .down hdir hname hback hbar hnode hlink hi, hj, hk⟩
  | @jump k here there todo name target hdir hname hback hbar hlink htarget hrest ih =>
      intro as bs hcut
      rcases List.cons_eq_append_iff.mp hcut with ⟨rfl, rfl⟩ | ⟨as', rfl, rfl⟩
      · exact ⟨0, k + 1, here, .done here, .jump hdir hname hback hbar hlink htarget hrest,
          (Nat.zero_add _).symm⟩
      · obtain ⟨i, j, mid, hi, hj, hk⟩ := ih (List.append_assoc (components target) as' bs).symm
        exact ⟨i + 1, j, mid, .jump hdir hname hback hbar hlink htarget hi, hj, by omega⟩

/-- **A path leads to one place only**, and always through the same number of links, whatever is barred. -/
theorem unique {bar' : List String → Option Refusal} {j k : Nat} {here there there' cs : List String}
    (h : Leads top bar j here cs there) (h' : Leads top bar' k here cs there') :
    j = k ∧ there = there' := by
  induction h generalizing k there' with
  | done here =>
      cases h'
      exact ⟨rfl, rfl⟩
  | stay _ hname _ _ ih =>
      cases h' with
      | stay _ _ _ hrest => exact ih hrest
      | back => simp at hname
      | down _ hname' => exact absurd hname hname'
      | jump _ hname' => exact absurd hname hname'
  | back _ _ _ ih =>
      cases h' with
      | stay _ hname => simp at hname
      | back _ _ hrest => exact ih hrest
      | down _ _ hback => exact absurd rfl hback
      | jump _ _ hback => exact absurd rfl hback
  | down _ hname hback _ hnode hlink _ ih =>
      cases h' with
      | stay _ hname' => exact absurd hname' hname
      | back => exact absurd rfl hback
      | down _ _ _ _ _ _ hrest => exact ih hrest
      | jump _ _ _ _ hnode' =>
          rw [hnode, Option.some.injEq] at hnode'
          exact absurd hnode' (hlink _)
  | jump _ hname hback _ hlink _ _ ih =>
      cases h' with
      | stay _ hname' => exact absurd hname' hname
      | back => exact absurd rfl hback
      | down _ _ _ _ hnode hlink' =>
          rw [hlink, Option.some.injEq] at hnode
          exact absurd hnode.symm (hlink' _)
      | jump _ _ _ _ hlink' _ hrest =>
          rw [hlink, Option.some.injEq, Node.link.injEq] at hlink'
          subst hlink'
          obtain ⟨hk, hthere⟩ := ih hrest
          exact ⟨congrArg (· + 1) hk, hthere⟩

/-- What leads somewhere does so freely. -/
theorem freely {k : Nat} {here there cs : List String} (h : Leads top bar k here cs there) :
    LeadsFreely top k here cs there := by
  induction h with
  | done here => exact .done here
  | stay hdir hname _ _ ih => exact .stay hdir hname (fun _ => rfl) ih
  | back hdir _ _ ih => exact .back hdir rfl ih
  | down hdir hname hback _ hnode hlink _ ih => exact .down hdir hname hback rfl hnode hlink ih
  | jump hdir hname hback _ hlink htarget _ ih => exact .jump hdir hname hback rfl hlink htarget ih

/-- Behind a slash at the end there is a directory. -/
lemma of_slash {k : Nat} {here there cs : List String} (h : Leads top bar k here (cs ++ [""]) there) :
    Leads top bar k here cs there := by
  obtain ⟨i, j, mid, hi, hj, rfl⟩ := h.split rfl
  generalize hlast : [""] = last at hj
  cases hj with
  | done => simp at hlast
  | stay _ _ _ hdone =>
      obtain rfl := (List.cons.inj hlast).2
      cases hdone
      exact hi
  | back => simp at hlast
  | down _ hname => exact absurd (.inl (List.cons.inj hlast).1.symm) hname
  | jump _ hname => exact absurd (.inl (List.cons.inj hlast).1.symm) hname

/-- **A name behind a directory**, if it is not that of a link. -/
lemma ofName {here : List String} {name : String} {node : Node} (hname : Path.IsName name)
    (hdir : top.HasDirectory here) (hbar : bar here = none)
    (hnode : top.at? (here ++ [name]) = some node) (hlink : ∀ target, node ≠ .link target) :
    Leads top bar 0 here [name] (here ++ [name]) :=
  .down hdir (not_or.mpr ⟨hname.1, hname.2.1⟩) hname.2.2.1 hbar hnode hlink (.done _)

end Leads

end Node

/-! ## Paths as they are written -/

/-- **A path that leads to a place through so many links.** -/
def Disk.Leads (d : Disk) (bar : List String → Option Refusal) (k : Nat) (path : String)
    (there : List String) : Prop :=
  path ≠ "" ∧ d.top.Leads bar k (d.start path) (components path) there

namespace Disk

variable {d : Disk} {bar : List String → Option Refusal}

/-- **What is found at a path**: what stands where the path leads, if that is not through too many
links, and the path has not too many bytes. -/
theorem find_eq_ok_iff {path : String} {there : List String} {node : Node} :
    d.find path = .ok (there, node)
      ↔ path.utf8ByteSize ≤ pathLimit
        ∧ ∃ k ≤ linkLimit, d.Leads (d.refuses .search) k path there ∧ d.top.at? there = some node := by
  by_cases hempty : path = ""
  · simp [find, locate, hempty, Leads]
  · by_cases hlong : pathLimit < path.utf8ByteSize
    · simp [find, locate, hempty, hlong, Nat.not_le_of_lt hlong]
    · have hfollow := @Node.follow_eq_ok_iff d.top (d.refuses .search) linkLimit (d.start path)
        (components path) there node
      simp only [find, locate, Leads, ne_eq, hempty, hlong, not_false_eq_true, true_and, if_false,
        Nat.le_of_not_lt hlong]
      rw [← hfollow]
      cases d.top.follow (d.refuses .search) linkLimit (d.start path) (components path) with
      | error o => simp
      | ok place =>
          obtain ⟨steps, found⟩ := place
          cases found with
          | none => simp
          | some other => simp

/-- **A path that leads somewhere freely is found there, or refused**, if it is not through too many
links. -/
theorem find_or_refused {k : Nat} {path : String} {there : List String} {node : Node} (hk : k ≤ linkLimit)
    (h : d.Leads (fun _ => none) k path there) (hnode : d.top.at? there = some node) :
    d.find path = .ok (there, node) ∨ ∃ r, d.find path = .error (.refused r) := by
  obtain ⟨hne, hleads⟩ := h
  by_cases hlong : pathLimit < path.utf8ByteSize
  · exact .inr ⟨.nameTooLong, by rw [find, locate, if_neg hne, if_pos hlong]⟩
  · rw [find, locate, if_neg hne, if_neg hlong]
    rcases Node.follow_of_leads (d.refuses .search) hleads hk with hok | ⟨_, r, -, -, hrefused⟩
    · exact .inl (by rw [hok, hnode])
    · exact .inr ⟨r, by rw [hrefused]⟩

/-- The components of a path behind a directory are those of the directory, but for a slash at its
end, and the names. -/
lemma components_join {root : String} {names : List String} (hroot : root ≠ "") (hne : names ≠ [])
    (h : ∀ n ∈ names, Path.IsName n) :
    ∃ cs, components (Path.join root (Path.ofNames names)) = cs ++ names
      ∧ (components root = cs ∨ components root = cs ++ [""]) := by
  obtain ⟨t, hfront, hspelling⟩ := Path.front_cases hroot
  have hempty : Text.pieces '/' "" = [""] := by decide
  have hslash := Path.pieces_append t ""
  rw [String.append_empty, hempty] at hslash
  refine ⟨components t, ?_, ?_⟩
  · rw [Path.join_eq_front root (Path.ofNames_not_absolute h), hfront, components,
      Path.pieces_append, Path.pieces_ofNames hne h, components]
  · rcases hspelling with rfl | rfl
    · exact .inl rfl
    · exact .inr hslash

namespace Leads

variable {j n : Nat} {root : String} {here there names : List String}

/-- A directory is reached with or without a slash at its end. -/
lemma of_components (hroot : d.Leads bar j root here) {cs : List String}
    (hcs : components root = cs ∨ components root = cs ++ [""]) :
    d.top.Leads bar j (d.start root) cs here := by
  have h := hroot.2
  rcases hcs with hcs | hcs
  · rwa [hcs] at h
  · rw [hcs] at h
    exact h.of_slash

lemma start_join (h : ∀ n ∈ names, Path.IsName n) :
    d.start (Path.join root (Path.ofNames names)) = d.start root := by
  rw [start, start, Path.isAbsolute_join root (Path.ofNames_not_absolute h)]

/-- **From a directory to what is behind it.** -/
theorem join {k : Nat} (hroot : d.Leads bar j root here) (hne : names ≠ [])
    (h : ∀ n ∈ names, Path.IsName n) (hnames : d.top.Leads bar k here names there) :
    d.Leads bar (j + k) (Path.join root (Path.ofNames names)) there := by
  obtain ⟨cs, hjoined, hcs⟩ := components_join hroot.1 hne h
  refine ⟨?_, ?_⟩
  · intro hempty
    have hpieces : components "" = [""] := by decide
    rw [hempty, hpieces] at hjoined
    cases cs with
    | nil =>
        rw [List.nil_append] at hjoined
        exact (h "" (hjoined ▸ List.mem_singleton_self "")).1 rfl
    | cons c cs => simp [hne] at hjoined
  · rw [start_join h, hjoined]
    exact (hroot.of_components hcs).append hnames

/-- What leads somewhere does so freely. -/
lemma freely (hroot : d.Leads bar j root here) : d.Leads (fun _ => none) j root here :=
  ⟨hroot.1, hroot.2.freely⟩

/-- What is behind a directory is reached through it. -/
theorem of_join (hroot : d.Leads bar j root here) (hne : names ≠ [])
    (h : ∀ n ∈ names, Path.IsName n)
    (hjoined : d.Leads bar n (Path.join root (Path.ofNames names)) there) :
    ∃ k, n = j + k ∧ d.top.Leads bar k here names there := by
  obtain ⟨cs, hcomponents, hcs⟩ := components_join hroot.1 hne h
  have hall := hjoined.2
  rw [start_join h, hcomponents] at hall
  obtain ⟨i, k, mid, hmid, hrest, rfl⟩ := hall.split rfl
  obtain ⟨rfl, rfl⟩ := (hroot.of_components hcs).unique hmid
  exact ⟨k, rfl, hrest⟩

end Leads

end Disk

end FunctionChurn
