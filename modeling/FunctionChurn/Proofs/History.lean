import FunctionChurn.History
import FunctionChurn.Proofs.Path

/-!
# The commit headers in a log

The search for commit headers goes through a text character by character: it may start only where a line
begins, and behind a header it goes on in the middle of that line.  What it finds can be said line by line.

* `Heads` says what a commit header is, `headerHash?_eq_some_iff` that it is recognised.
* `commitsFrom_inside`: once inside of a line, nothing is found up to its end.
* `commits_joinWith`: of several lines, those that are headers are found, each once.
* `LogEntry` is what is printed of one commit, and `printed` what is printed of several.
* **`commits_printed`** reads the hashes back, and says what is found in any text.
-/

namespace FunctionChurn

/-! ## Headers -/

/-- **A text that begins with the header of a commit**, the hash of which is given. -/
structure Heads (digits text : List Char) : Prop where
  full : digits.length = hashLength
  lower : ∀ c ∈ digits, isHashChar c
  front : headerStart ++ digits <+: text

/-- **A header is recognised by its hash.** -/
theorem headerHash?_eq_some_iff {text : List Char} {hash : String} :
    headerHash? text = some hash ↔ Heads hash.toList text := by
  simp only [headerHash?, Bool.and_eq_true, List.isPrefixOf_iff_prefix, beq_iff_eq,
    List.all_eq_true, Option.ite_none_right_eq_some, Option.some.injEq]
  constructor
  · rintro ⟨⟨⟨⟨rest, rfl⟩, hfull⟩, hlower⟩, rfl⟩
    rw [List.drop_left] at hfull hlower ⊢
    rw [String.toList_ofList]
    exact ⟨hfull, hlower, (List.prefix_append_right_inj headerStart).mpr (List.take_prefix _ _)⟩
  · rintro ⟨hfull, hlower, rest, rfl⟩
    have hdigits : ((headerStart ++ hash.toList ++ rest).drop headerStart.length).take hashLength
        = hash.toList := by
      rw [List.append_assoc, List.drop_left, ← hfull, List.take_left]
    rw [hdigits]
    exact ⟨⟨⟨(List.prefix_append _ _).trans (List.prefix_append _ _), hfull⟩, hlower⟩,
      String.ofList_toList⟩

/-- No line ends inside of a header. -/
lemma Heads.newline_notMem {digits text : List Char} (h : Heads digits text) :
    '\n' ∉ headerStart ++ digits := by
  rw [List.mem_append, not_or]
  exact ⟨by decide, fun hmem => absurd (h.lower _ hmem) (by decide)⟩

/-- What stands behind the end of a line does not make it a header. -/
lemma heads_append_newline {digits line : List Char} (more : List Char) :
    Heads digits (line ++ '\n' :: more) ↔ Heads digits line := by
  refine ⟨fun h => ⟨h.full, h.lower, ?_⟩, fun h => ⟨h.full, h.lower, h.front.trans ?_⟩⟩
  · rcases List.prefix_or_prefix_of_prefix h.front (List.prefix_append line _) with hfront | ⟨d, hd⟩
    · exact hfront
    · have hbehind : d <+: '\n' :: more := by
        rw [← List.prefix_append_right_inj line, hd]
        exact h.front
      rcases List.prefix_cons_iff.mp hbehind with rfl | ⟨t, rfl, -⟩
      · exact ⟨[], by rw [List.append_nil, ← hd, List.append_nil]⟩
      · exact absurd (hd ▸ List.mem_append_right line List.mem_cons_self) h.newline_notMem
  · exact List.prefix_append _ _

/-- **Whether a line is a header is decided on that line.** -/
lemma headerHash?_append_newline (line more : List Char) :
    headerHash? (line ++ '\n' :: more) = headerHash? line :=
  Option.ext fun hash => by
    rw [headerHash?_eq_some_iff, headerHash?_eq_some_iff, heads_append_newline]

/-! ## The search -/

@[simp] lemma commitsFrom_nil (before : Option Char) (taken : Nat) :
    commitsFrom before taken [] = [] := by
  cases taken <;> rfl

/-- Behind a character of a line no line begins. -/
lemma not_beginsLine {c : Char} {line : List Char} (h : '\n' ∉ c :: line) :
    beginsLine (some c) = false ∧ '\n' ∉ line := by
  rw [List.mem_cons, not_or] at h
  exact ⟨beq_eq_false_iff_ne.mpr (Ne.symm h.1), h.2⟩

/-- **Inside of a line** nothing is found up to its end: neither where no line begins, nor in the rest of
the header that was found last. -/
lemma commitsFrom_inside (tail : List Char) :
    ∀ (line : List Char) (before : Option Char) (taken : Nat), '\n' ∉ line → taken ≤ line.length →
      (taken = 0 → beginsLine before = false) →
        ∃ before', commitsFrom before taken (line ++ tail) = commitsFrom before' 0 tail
  | [], before, taken, _, htaken, _ => by
      obtain rfl : taken = 0 := Nat.le_zero.mp htaken
      exact ⟨before, rfl⟩
  | c :: line, before, taken, hline, htaken, hbefore => by
      obtain ⟨hinside, hline⟩ := not_beginsLine hline
      cases taken with
      | zero =>
          -- no header is looked for here, however much the text may look like one
          have hskip : commitsFrom before 0 (c :: line ++ tail) = commitsFrom (some c) 0 (line ++ tail) := by
            rw [List.cons_append, commitsFrom, if_neg (by simp [hbefore rfl])]
          rw [hskip]
          exact commitsFrom_inside tail line _ 0 hline (Nat.zero_le _) fun _ => hinside
      | succ taken =>
          rw [List.cons_append, commitsFrom]
          exact commitsFrom_inside tail line _ taken hline (Nat.le_of_succ_le_succ htaken) fun _ => hinside

/-- Behind a line feed the search begins anew. -/
lemma commitsFrom_newline (before : Option Char) (more : List Char) :
    commitsFrom before 0 ('\n' :: more) = commits more := by
  have hnone : headerHash? ('\n' :: more) = none := headerHash?_append_newline [] more
  have hstart : commitsFrom (some '\n') 0 more = commits more := by
    cases more <;> rfl
  rw [commitsFrom, hnone, ite_self, ← hstart]

/-- **A line gives its hash**, if it is a header, and the search goes on inside of it. -/
lemma commits_line {line : List Char} (tail : List Char) (hline : '\n' ∉ line)
    (htail : headerHash? (line ++ tail) = headerHash? line) :
    ∃ before, commits (line ++ tail) = (headerHash? line).toList ++ commitsFrom before 0 tail := by
  cases line with
  | nil => exact ⟨none, rfl⟩
  | cons c line =>
      obtain ⟨hinside, hrest⟩ := not_beginsLine hline
      have hstart : beginsLine none = true := rfl
      rw [commits, List.cons_append, commitsFrom, if_pos hstart, ← List.cons_append, htail]
      cases hhash : headerHash? (c :: line) with
      | none =>
          exact commitsFrom_inside tail line _ 0 hrest (Nat.zero_le _) fun _ => hinside
      | some hash =>
          have hheads := headerHash?_eq_some_iff.mp hhash
          have hlength : headerStart.length + hashLength ≤ line.length + 1 := by
            have hle := hheads.front.length_le
            rw [List.length_append, hheads.full] at hle
            exact hle
          obtain ⟨before, heq⟩ := commitsFrom_inside tail line (some c)
            (headerStart.length + hashLength - 1) hrest (Nat.sub_le_of_le_add hlength)
            fun h => absurd h (by decide)
          exact ⟨before, congrArg (hash :: ·) heq⟩

lemma filterMap_headerHash?_cons (line : List Char) (lines : List (List Char)) :
    (line :: lines).filterMap headerHash?
      = (headerHash? line).toList ++ lines.filterMap headerHash? := by
  rw [List.filterMap_cons]
  cases headerHash? line <;> rfl

/-- **Of several lines those that are headers are found**, each with its first hash only. -/
theorem commits_joinWith :
    ∀ {lines : List (List Char)}, (∀ line ∈ lines, '\n' ∉ line) →
      commits (Text.joinWith '\n' lines) = lines.filterMap headerHash?
  | [], _ => rfl
  | [line], h => by
      obtain ⟨before, heq⟩ := commits_line [] (h line List.mem_cons_self)
        (by rw [List.append_nil])
      rw [List.append_nil, commitsFrom_nil, List.append_nil] at heq
      rw [Text.joinWith, heq, filterMap_headerHash?_cons, List.filterMap_nil, List.append_nil]
  | line :: line' :: lines, h => by
      obtain ⟨hline, hlines⟩ := List.forall_mem_cons.mp h
      have ih := commits_joinWith hlines
      obtain ⟨before, heq⟩ := commits_line _ hline
        (headerHash?_append_newline line (Text.joinWith '\n' (line' :: lines)))
      rw [Text.joinWith, heq, commitsFrom_newline, ih, ← filterMap_headerHash?_cons]
      exact List.cons_ne_nil line' lines

/-- **What is found in a text** is what is found in its lines. -/
theorem commits_eq (text : List Char) :
    commits text = (Text.splitOn '\n' text).filterMap headerHash? := by
  have hlines : ∀ line ∈ Text.splitOn '\n' text, '\n' ∉ line := fun _ => Text.notMem_of_mem_splitOn
  rw [← commits_joinWith hlines, Text.joinWith_splitOn]

/-! ## Logs -/

/-- **What is printed of one commit**: a line with its hash, on which something else may follow, and
lines of which none is a header. -/
structure LogEntry where
  hash : List Char
  decoration : List Char
  body : List (List Char)
  hash_full : hash.length = hashLength
  hash_lower : ∀ c ∈ hash, isHashChar c
  decoration_line : '\n' ∉ decoration
  body_line : ∀ line ∈ body, '\n' ∉ line
  body_plain : ∀ line ∈ body, ∀ digits, ¬ Heads digits line

namespace LogEntry

/-- The line with the hash. -/
def header (e : LogEntry) : List Char := headerStart ++ e.hash ++ e.decoration

/-- The lines that are printed of a commit. -/
def lines (e : LogEntry) : List (List Char) := e.header :: e.body

lemma heads_header (e : LogEntry) : Heads e.hash e.header :=
  ⟨e.hash_full, e.hash_lower, List.prefix_append _ _⟩

lemma newline_notMem_lines (e : LogEntry) : ∀ line ∈ e.lines, '\n' ∉ line := by
  refine List.forall_mem_cons.mpr ⟨?_, e.body_line⟩
  rw [header, List.mem_append, not_or]
  exact ⟨e.heads_header.newline_notMem, e.decoration_line⟩

/-- **The hash of a commit is the only one in its lines.** -/
lemma filterMap_lines (e : LogEntry) : e.lines.filterMap headerHash? = [String.ofList e.hash] := by
  have hheader : headerHash? e.header = some (String.ofList e.hash) := by
    rw [headerHash?_eq_some_iff, String.toList_ofList]
    exact e.heads_header
  have hbody : e.body.filterMap headerHash? = [] :=
    List.filterMap_eq_nil_iff.mpr fun line hline =>
      Option.eq_none_iff_forall_ne_some.mpr fun hash hhash =>
        e.body_plain line hline _ (headerHash?_eq_some_iff.mp hhash)
  rw [lines, List.filterMap_cons_some hheader, hbody]

end LogEntry

/-- **What is printed of several commits.** -/
def printed (entries : List LogEntry) : List Char :=
  Text.joinWith '\n' (entries.flatMap LogEntry.lines)

/-- **Reading a log.**

1. What is printed of some commits gives their hashes, in order.
2. What is found in any text is what is found in its lines, each looked at by itself: nothing but a line
   feed ends a line.
3. A line gives at most one hash: that of the header it begins with.
4. Two texts with a line feed in between give what they give by themselves. -/
theorem commits_printed :
    (∀ entries : List LogEntry,
      commits (printed entries) = entries.map fun e => String.ofList e.hash)
    ∧ (∀ text, commits text = (Text.splitOn '\n' text).filterMap headerHash?)
    ∧ (∀ line hash, headerHash? line = some hash ↔ Heads hash.toList line)
    ∧ ∀ as bs, commits (as ++ '\n' :: bs) = commits as ++ commits bs := by
  refine ⟨fun entries => ?_, commits_eq, fun _ _ => headerHash?_eq_some_iff, fun as bs => ?_⟩
  · have hlines : ∀ line ∈ entries.flatMap LogEntry.lines, '\n' ∉ line := fun line hline => by
      obtain ⟨e, -, he⟩ := List.mem_flatMap.mp hline
      exact e.newline_notMem_lines line he
    calc commits (printed entries)
        = (entries.flatMap LogEntry.lines).filterMap headerHash? := commits_joinWith hlines
      _ = entries.flatMap fun e => [String.ofList e.hash] := by
          rw [List.filterMap_flatMap]
          exact congrArg (fun f => entries.flatMap f) (funext LogEntry.filterMap_lines)
      _ = entries.map fun e => String.ofList e.hash := List.map_eq_flatMap.symm
  · rw [commits_eq, commits_eq as, commits_eq bs, Text.splitOn_append, List.filterMap_append]

/-- A hash that goes on, a carriage return in front of a header, and a header that is cut short. -/
example :
    commits ("commit ".toList ++ List.replicate 41 'a' ++ "\r\ncommit 12\rcommit ".toList
      ++ List.replicate 40 'b') = [String.ofList (List.replicate 40 'a')] := by
  decide +kernel

end FunctionChurn
