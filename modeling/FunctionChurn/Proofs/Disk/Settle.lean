import FunctionChurn.Proofs.Disk.Tree

/-!
# Tidy paths and settled paths

A path can be made tidy, and it can be settled into an absolute one that is free of links.  Neither changes
the directory that it leads to.

* **`Disk.find_tidy`**: a directory that is found at a path is found at the tidy path, and
  `Disk.find_of_tidy`: the other way round, unless the system refuses the path as it is written.
* `Node.LinkLeads` is the reading of a link's target, with what it costs.  A link that is met while its own
  target is read would cost more than itself, so on a path that leads somewhere none is met.
* `Disk.Clear` says that what is on the way to a place can be seen, and so it is where a path leads.
* **`Disk.settle_of_leads`**: a path that leads somewhere is settled there, since all the links on it may
  still be met.
* **`Disk.settle_join_congr`**: what a name behind a directory settles on does not depend on how the
  directory is spelled, and `Disk.settle_join` is its absolute path, unless it is the name of a link.
-/

namespace FunctionChurn

namespace Node

variable {top : Node}

/-! ## Components that stand still -/

namespace Leads

variable {bar : List String → Option Refusal} {k : Nat} {here there todo : List String} {name : String}

/-- A path that leads to a directory starts in one. -/
lemma hasDirectory_start {cs : List String} (h : Leads top bar k here cs there)
    (hthere : top.HasDirectory there) : top.HasDirectory here := by
  cases h with
  | done => exact hthere
  | stay hdir | back hdir | down hdir | jump hdir => exact hdir

lemma cons_iff_of_stay (hname : name = "" ∨ name = ".") : Leads top bar k here (name :: todo) there
    ↔ top.HasDirectory here ∧ (name ≠ "" → bar here = none) ∧ Leads top bar k here todo there := by
  refine ⟨fun h => ?_, fun ⟨hdir, hbar, hrest⟩ => .stay hdir hname hbar hrest⟩
  cases h with
  | stay hdir _ hbar hrest => exact ⟨hdir, hbar, hrest⟩
  | back => simp at hname
  | down _ hname' => exact absurd hname hname'
  | jump _ hname' => exact absurd hname hname'

/-- An empty component or a dot leads nowhere else. -/
lemma of_stay (hname : name = "" ∨ name = ".") (h : Leads top bar k here (name :: todo) there) :
    Leads top bar k here todo there := ((cons_iff_of_stay hname).mp h).2.2

/-- A path goes over its first component and then over the others. -/
lemma cons_iff {rest : List String} : Leads top bar k here (name :: rest) there
    ↔ ∃ i j mid, Leads top bar i here [name] mid ∧ Leads top bar j mid rest there ∧ k = i + j := by
  constructor
  · exact fun h => h.split rfl
  · rintro ⟨i, j, mid, hfirst, hrest, rfl⟩
    exact hfirst.append hrest

end Leads

/-- The components that do not stand still. -/
def moving (cs : List String) : List String := cs.filter fun n => n ≠ "" && n ≠ "."

lemma moving_cons_of_stay {name : String} (h : name = "" ∨ name = ".") (cs : List String) :
    moving (name :: cs) = moving cs := by
  rcases h with rfl | rfl <;> rfl

lemma moving_cons {name : String} (h : ¬(name = "" ∨ name = ".")) (cs : List String) :
    moving (name :: cs) = name :: moving cs := by
  obtain ⟨hempty, hdot⟩ := not_or.mp h
  exact List.filter_cons_of_pos (by simp [hempty, hdot])

section Components

variable {bar : List String → Option Refusal} {there : List String}

/-- **Components that stand still can be left out** of a path. -/
theorem Leads.moving {k : Nat} {cs here : List String} (h : Leads top bar k here cs there) :
    Leads top bar k here (moving cs) there := by
  induction cs generalizing here k with
  | nil => exact h
  | cons name rest ih =>
      by_cases hname : name = "" ∨ name = "."
      · rw [moving_cons_of_stay hname]
        exact ih (h.of_stay hname)
      · rw [moving_cons hname]
        obtain ⟨i, j, mid, hfirst, hrest, hk⟩ := Leads.cons_iff.mp h
        exact Leads.cons_iff.mpr ⟨i, j, mid, hfirst, ih hrest, hk⟩

/-- **Components that stand still can be put in**, on the way to a directory, where nothing is refused. -/
theorem LeadsFreely.of_moving {k : Nat} {cs here : List String}
    (h : LeadsFreely top k here (moving cs) there) (hthere : top.HasDirectory there) :
    LeadsFreely top k here cs there := by
  induction cs generalizing here k with
  | nil => exact h
  | cons name rest ih =>
      by_cases hname : name = "" ∨ name = "."
      · rw [moving_cons_of_stay hname] at h
        exact .stay (h.hasDirectory_start hthere) hname (fun _ => rfl) (ih h)
      · rw [moving_cons hname] at h
        obtain ⟨i, j, mid, hfirst, hrest, hk⟩ := Leads.cons_iff.mp h
        exact Leads.cons_iff.mpr ⟨i, j, mid, hfirst, ih hrest, hk⟩

/-- Empty components can be put in everywhere, for nothing is looked up for them. -/
lemma Leads.of_filter {k : Nat} {cs here : List String}
    (h : Leads top bar k here (cs.filter (· ≠ "")) there) (hthere : top.HasDirectory there) :
    Leads top bar k here cs there := by
  induction cs generalizing here k with
  | nil => exact h
  | cons name rest ih =>
      by_cases hname : name = ""
      · rw [List.filter_cons_of_neg (by simp [hname])] at h
        exact .stay (h.hasDirectory_start hthere) (.inl hname) (fun hne => absurd hname hne) (ih h)
      · rw [List.filter_cons_of_pos (by simp [hname])] at h
        obtain ⟨i, j, mid, hfirst, hrest, hk⟩ := Leads.cons_iff.mp h
        exact Leads.cons_iff.mpr ⟨i, j, mid, hfirst, ih hrest, hk⟩

end Components

/-! ## Settling in parts -/

section Parts

variable {look : List String → Option Node}
  {jump : List String → List String → List String → Except (List String) (List String)}

/-- **One path and then another**: the second begins where the first is settled.  If the first is stuck, the
second is left to read. -/
lemma settleAlong_append (bs : List String) : ∀ (as here : List String),
    settleAlong look jump here (as ++ bs) = match settleAlong look jump here as with
      | .ok mid => settleAlong look jump mid bs
      | .error stuck => .error (stuck ++ bs)
  | [], _ => rfl
  | name :: rest, here => by
      rw [List.cons_append, settleAlong, settleAlong]
      split
      · exact settleAlong_append bs rest here
      · split
        · exact settleAlong_append bs rest here.dropLast
        · split
          · next target _ =>
              cases jump (here ++ [name]) (linkStart here target) (components target) with
              | ok there => exact settleAlong_append bs rest there
              | error stuck => exact congrArg Except.error (List.append_assoc stuck rest bs).symm
          · exact settleAlong_append bs rest (here ++ [name])

end Parts

/-- Whatever links may still be met, settling is one pass along the components. -/
lemma settle_eq_settleAlong (look : List String → Option Node) :
    ∀ (n : Nat) (unmet : List (List String)), ∃ jump, settle look n unmet = settleAlong look jump
  | 0, _ => ⟨_, rfl⟩
  | _ + 1, _ => ⟨_, rfl⟩

lemma settle_append (look : List String → Option Node) (n : Nat) (unmet : List (List String))
    (as bs here : List String) :
    settle look n unmet here (as ++ bs) = match settle look n unmet here as with
      | .ok mid => settle look n unmet mid bs
      | .error stuck => .error (stuck ++ bs) := by
  obtain ⟨jump, hsettle⟩ := settle_eq_settleAlong look n unmet
  rw [hsettle]
  exact settleAlong_append bs as here

/-! ## Where links are -/

lemma mem_links_entries {name : String} {node : Node} {rest : List String} (h : rest ∈ node.links) :
    ∀ {es : Entries}, es.find? name = some node → name :: rest ∈ es.links
  | .none, hfind => by simp [Entries.find?] at hfind
  | .entry (.raw bytes) other others, hfind => by
      have hothers : others.find? name = some node := by simpa [Entries.find?] using hfind
      rw [Entries.links]
      exact mem_links_entries h hothers
  | .entry (.text n) other others, hfind => by
      rw [Entries.links, List.mem_append]
      rw [Entries.find?] at hfind
      split at hfind
      · next hn =>
          obtain rfl : n = name := EntryName.text.inj hn
          obtain rfl : other = node := Option.some.inj hfind
          exact .inl (List.mem_map_of_mem h)
      · exact .inr (mem_links_entries h hfind)

/-- **Every link is at one of the places of links.** -/
theorem mem_links {target : String} :
    ∀ {top : Node} {link : List String}, top.at? link = some (.link target) → link ∈ top.links
  | top, [], h => by
      obtain rfl : top = .link target := Option.some.inj h
      exact List.mem_singleton_self []
  | top, name :: rest, h => by
      obtain ⟨next, hchild, hrest⟩ := at?_cons_eq_some h
      obtain ⟨listable, es, rfl, hfind⟩ := directory_of_child? hchild
      exact mem_links_entries (mem_links hrest) hfind

/-! ## Settling what leads somewhere -/

/-- **The reading of a link's target**, which leads somewhere through so many more links. -/
def LinkLeads (top : Node) (k : Nat) (link there : List String) : Prop :=
  ∃ target, top.at? link = some (.link target)
    ∧ LeadsFreely top k (linkStart link.dropLast target) (components target) there

/-- A link's target always costs the same. -/
lemma LinkLeads.unique {j k : Nat} {link there there' : List String} (h : top.LinkLeads j link there)
    (h' : top.LinkLeads k link there') : j = k := by
  obtain ⟨target, hlink, hleads⟩ := h
  obtain ⟨target', hlink', hleads'⟩ := h'
  obtain rfl : target = target' := Node.link.inj (Option.some.inj (hlink.symm.trans hlink'))
  exact (hleads.unique hleads').1

/-- **The links that cost less** than a number may all still be met. -/
def Unmet (top : Node) (k : Nat) (unmet : List (List String)) : Prop :=
  ∀ j < k, ∀ link there, top.LinkLeads j link there → link ∈ unmet

/-- While a link is read it must not be met again, which costs it nothing. -/
lemma Unmet.erase {j k : Nat} {unmet : List (List String)} {link there : List String}
    (h : top.Unmet k unmet) (hlink : top.LinkLeads j link there) (hj : j < k) :
    top.Unmet j (unmet.erase link) := by
  intro i hi other mid hother
  have hne : other ≠ link := by
    rintro rfl
    exact hi.ne (hother.unique hlink)
  exact (List.mem_erase_of_ne hne).mpr (h i (hi.trans hj) other mid hother)

/-- A link whose target is settled is read in its place. -/
lemma settle_cons_link {look : List String → Option Node} {n : Nat} {unmet : List (List String)}
    {here mid todo : List String} {name target : String} (hname : ¬(name = "" ∨ name = "."))
    (hback : name ≠ "..") (hlink : look (here ++ [name]) = some (.link target))
    (hmem : here ++ [name] ∈ unmet)
    (hmid : settle look n (unmet.erase (here ++ [name])) (linkStart here target) (components target)
      = .ok mid) :
    settle look (n + 1) unmet here (name :: todo) = settle look (n + 1) unmet mid todo := by
  rw [settle, settleAlong, if_neg hname, if_neg hback, hlink]
  dsimp only
  rw [if_pos hmem, hmid]

end Node

namespace Disk

variable {d : Disk}

/-! ## What is seen on the way -/

/-- **Names are looked up on the way to a place**: in the directories above it, but for those above the working
directory. -/
def Clear (d : Disk) (here : List String) : Prop :=
  ∀ p, p <+: here → p ≠ here → d.refuses .search p = none ∨ p <+: d.cwd ∧ p ≠ d.cwd

lemma clear_nil (d : Disk) : d.Clear [] := fun _ hp hne => absurd (List.prefix_nil.mp hp) hne

lemma clear_start (d : Disk) (path : String) : d.Clear (d.start path) := by
  rw [start]
  split
  · exact d.clear_nil
  · exact fun _ hp hne => .inr ⟨hp, hne⟩

namespace Clear

variable {here : List String}

lemma concat (h : d.Clear here) (hbar : d.refuses .search here = none) (name : String) :
    d.Clear (here ++ [name]) := by
  intro p hp hne
  rcases List.prefix_concat_iff.mp hp with rfl | hp
  · exact absurd rfl hne
  · by_cases hhere : p = here
    · exact .inl (hhere ▸ hbar)
    · exact h p hp hhere

lemma dropLast (h : d.Clear here) : d.Clear here.dropLast := by
  intro p hp hne
  refine h p (hp.trans (List.dropLast_prefix here)) ?_
  rintro rfl
  exact hne (hp.eq_of_length_le (by simp))

lemma linkStart (h : d.Clear here) (target : String) : d.Clear (Node.linkStart here target) := by
  rw [Node.linkStart]
  split
  · exact d.clear_nil
  · exact h

/-- What can be looked up is seen. -/
lemma look (h : d.Clear here) (hbar : d.refuses .search here = none) (name : String) :
    d.look (here ++ [name]) = d.top.at? (here ++ [name]) := by
  have hshown : d.hides here = false := by
    rw [hides, List.any_eq_false]
    intro n _
    by_cases hhere : here.take n = here
    · simp [hhere, hbar]
    · rcases h _ (List.take_prefix n here) hhere with hsearch | ⟨hcwd, hne⟩
      · simp [hsearch]
      · simp [hcwd, hne]
  rw [Disk.look, List.dropLast_concat, if_neg (by simp [hshown])]

/-- Where a path leads, everything on the way was looked up. -/
lemma of_leads {k : Nat} {cs there : List String} (h : d.Clear here)
    (hleads : d.top.Leads (d.refuses .search) k here cs there) : d.Clear there := by
  induction hleads with
  | done => exact h
  | stay _ _ _ _ ih => exact ih h
  | back _ _ _ ih => exact ih h.dropLast
  | down _ _ _ hbar _ _ _ ih => exact ih (h.concat hbar _)
  | jump _ _ _ _ _ _ _ ih => exact ih (h.linkStart _)

end Clear

/-- **A path that leads somewhere is settled there**, if all the links on it may still be met. -/
theorem settle_of_leads {k n : Nat} {unmet : List (List String)} {cs here there : List String}
    (h : d.top.Leads (d.refuses .search) k here cs there) (hclear : d.Clear here)
    (hunmet : d.top.Unmet k unmet) (hn : unmet.length ≤ n) :
    Node.settle d.look n unmet here cs = .ok there := by
  -- by the number of links on the way, and then component by component up to the next of them
  induction k using Nat.strong_induction_on generalizing n unmet cs here there with
  | _ k ih =>
    obtain ⟨jump, hsettle⟩ := Node.settle_eq_settleAlong d.look n unmet
    induction cs generalizing here with
    | nil =>
        cases h
        rw [hsettle]
        rfl
    | cons name rest ihrest =>
        rw [hsettle] at ihrest
        cases h with
        | stay _ hname _ hrest =>
            rw [hsettle, Node.settleAlong, if_pos hname]
            exact ihrest hrest hclear
        | back _ _ hrest =>
            rw [hsettle, Node.settleAlong, if_neg (by decide), if_pos rfl]
            exact ihrest hrest hclear.dropLast
        | @down _ _ _ _ _ node _ hname hback hbar hnode hlink hrest =>
            have hthere := ihrest hrest (hclear.concat hbar name)
            rw [hsettle, Node.settleAlong, if_neg hname, if_neg hback, hclear.look hbar, hnode]
            cases node with
            | link target => exact absurd rfl (hlink target)
            | file | directory => exact hthere
        | @jump k _ _ _ _ target _ hname hback hbar hlink _ hall =>
            obtain ⟨i, j, mid, htarget, hrest, hk⟩ := hall.split rfl
            have hcost : d.top.LinkLeads i (here ++ [name]) mid :=
              ⟨target, hlink, by rw [List.dropLast_concat]; exact htarget.freely⟩
            have hmem : here ++ [name] ∈ unmet := hunmet i (by omega) _ _ hcost
            cases n with
            | zero =>
                rw [List.length_eq_zero_iff.mp (Nat.le_zero.mp hn)] at hmem
                contradiction
            | succ n =>
                have herased : (unmet.erase (here ++ [name])).length ≤ n := by
                  rw [List.length_erase_of_mem hmem]
                  omega
                have hstart := hclear.linkStart target
                have hmid := ih i (by omega) htarget hstart (hunmet.erase hcost (by omega)) herased
                have hseen := (hclear.look hbar name).trans hlink
                rw [Node.settle_cons_link hname hback hseen hmem hmid]
                exact ih j (by omega) hrest (hstart.of_leads htarget) (fun l hl => hunmet l (by omega)) hn

/-! ## Tidy paths -/

lemma start_tidy (d : Disk) (path : String) : d.start (Path.tidy path) = d.start path := by
  rw [start, start, Path.isAbsolute_tidy]

/-- A relative path without names begins with a dot. -/
lemma components_of_no_names {path : String} (hne : path ≠ "") (hrelative : Path.isAbsolute path = false)
    (hnames : Path.names path = []) : ∃ rest, components path = "." :: rest := by
  have htext := Text.joinWith_splitOn '/' path.toList
  rw [components, Text.pieces]
  rw [Path.names, Text.pieces] at hnames
  cases hsplit : Text.splitOn '/' path.toList with
  | nil => exact absurd hsplit (Text.splitOn_ne_nil '/' path.toList)
  | cons p ps =>
      rw [hsplit] at htext hnames
      have hp : p ≠ [] := by
        rintro rfl
        cases ps with
        | nil => exact hne (by simpa [Text.joinWith] using htext.symm)
        | cons q qs => simp [Path.isAbsolute, ← htext, Text.joinWith] at hrelative
      have hdot : String.ofList p = "." := by
        have hall := List.filter_eq_nil_iff.mp hnames (String.ofList p) (by simp)
        simpa [hp] using hall
      exact ⟨ps.map String.ofList, by rw [List.map_cons, hdot]⟩

/-- A path to a directory leads there when it is made tidy. -/
lemma Leads.tidy {bar : List String → Option Refusal} {k : Nat} {path : String} {here : List String}
    (h : d.Leads bar k path here) (hhere : d.top.HasDirectory here) :
    d.Leads bar k (Path.tidy path) here := by
  obtain ⟨hne, hleads⟩ := h
  refine ⟨Path.tidy_ne_empty path, ?_⟩
  rw [start_tidy]
  rcases Path.filter_pieces_tidy path with hnames | ⟨hdot, hnames⟩
  · refine Node.Leads.of_filter ?_ hhere
    rw [components, hnames]
    exact hleads.moving
  · -- the dot that is left was there before
    have hrelative : Path.isAbsolute path = false := by
      rw [← Path.isAbsolute_tidy, hdot]
      decide
    obtain ⟨rest, hrest⟩ := components_of_no_names hne hrelative hnames
    have hone : components "." = ["."] := by decide
    have hmoving : Node.moving rest = [] := by
      rw [← Node.moving_cons_of_stay (.inr rfl) rest, ← hrest]
      exact hnames
    rw [hdot, hone]
    rw [hrest] at hleads
    obtain ⟨hdir, hbar, hdone⟩ := (Node.Leads.cons_iff_of_stay (.inr rfl)).mp hleads
    have hthere := hdone.moving
    rw [hmoving] at hthere
    exact .stay hdir (.inr rfl) hbar hthere

/-- **A directory is found at a tidy path** if it is found at the path. -/
theorem find_tidy {path : String} {here : List String} {listable : Bool} {es : Entries}
    (h : d.find path = .ok (here, .directory listable es)) :
    d.find (Path.tidy path) = .ok (here, .directory listable es) := by
  obtain ⟨hlong, k, hk, hleads, hnode⟩ := find_eq_ok_iff.mp h
  exact find_eq_ok_iff.mpr ⟨(Path.utf8ByteSize_tidy_le hleads.1).trans hlong, k, hk,
    hleads.tidy ⟨_, _, hnode⟩, hnode⟩

/-- **A directory that is found at a tidy path** is found at the path, unless the system refuses that. -/
theorem find_of_tidy {path : String} {here : List String} {listable : Bool} {es : Entries}
    (hne : path ≠ "") (h : d.find (Path.tidy path) = .ok (here, .directory listable es)) :
    d.find path = .ok (here, .directory listable es) ∨ ∃ r, d.find path = .error (.refused r) := by
  obtain ⟨-, k, hk, ⟨-, hleads⟩, hnode⟩ := find_eq_ok_iff.mp h
  refine find_or_refused hk ⟨hne, Node.LeadsFreely.of_moving ?_ ⟨_, _, hnode⟩⟩ hnode
  have hmoving : Node.moving (components (Path.tidy path)) = Node.moving (components path) :=
    Path.names_tidy path
  rw [← hmoving, ← d.start_tidy path]
  exact hleads.freely.moving

/-! ## Settled paths -/

/-- At the start every link may be met. -/
lemma unmet_links (d : Disk) (k : Nat) : d.top.Unmet k d.top.links := by
  rintro j - link there ⟨target, hlink, -⟩
  exact Node.mem_links hlink

variable {j k : Nat} {root root' : String} {here names : List String}

/-- Behind a directory, settling goes on from where the directory is. -/
lemma settle_components_join (h : d.Leads (d.refuses .search) j root here) (hne : names ≠ [])
    (hnames : ∀ n ∈ names, Path.IsName n) :
    Node.settle d.look d.top.links.length d.top.links (d.start (Path.join root (Path.ofNames names)))
        (components (Path.join root (Path.ofNames names)))
      = Node.settle d.look d.top.links.length d.top.links here names := by
  obtain ⟨cs, hjoined, hcs⟩ := components_join h.1 hne hnames
  have hhere := settle_of_leads (h.of_components hcs) (d.clear_start root) (d.unmet_links j)
    (Nat.le_refl _)
  rw [Leads.start_join hnames, hjoined, Node.settle_append, hhere]

/-- **What is behind a directory settles alike**, however the directory is spelled. -/
theorem settle_join_congr (h : d.Leads (d.refuses .search) j root here)
    (h' : d.Leads (d.refuses .search) k root' here) (hne : names ≠ [])
    (hnames : ∀ n ∈ names, Path.IsName n) :
    d.settle (Path.join root (Path.ofNames names)) = d.settle (Path.join root' (Path.ofNames names)) := by
  rw [settle, settle, settle_components_join h hne hnames, settle_components_join h' hne hnames]

/-- **A name behind a directory settles on its absolute path**, unless it is the name of a link. -/
theorem settle_join {name : String} (h : d.Leads (d.refuses .search) j root here)
    (hname : Path.IsName name) (hlink : ∀ target, d.top.at? (here ++ [name]) ≠ some (.link target)) :
    d.settle (Path.join root name) = .ok (Path.absolute (here ++ [name])) := by
  have hone : Path.ofNames [name] = name := by simp [Path.ofNames]
  have hnames : ∀ n ∈ [name], Path.IsName n := by simpa using hname
  have hjoined := settle_components_join h (List.cons_ne_nil name []) hnames
  rw [hone] at hjoined
  obtain ⟨jump, hsettle⟩ := Node.settle_eq_settleAlong d.look d.top.links.length d.top.links
  have hunseen : ∀ target, d.look (here ++ [name]) ≠ some (.link target) := by
    intro target
    rw [look]
    split
    · simp
    · exact hlink target
  have hthere : Node.settle d.look d.top.links.length d.top.links here [name]
      = .ok (here ++ [name]) := by
    rw [hsettle, Node.settleAlong, if_neg (not_or.mpr ⟨hname.1, hname.2.1⟩), if_neg hname.2.2.1]
    split
    · next target hnode => exact absurd hnode (hunseen target)
    · rfl
  rw [settle, hjoined, hthere]

end Disk

end FunctionChurn
