import FunctionChurn.Proofs.Report.Table

/-!
# Reports that are read back

The columns of a table are as wide as what stands in them, and a text can have gaps of its own, so the gaps
of a row do not tell where a column ends.  The line of dashes does: with it the cells are got back from the
lines, and a report says everything about its rows.

* `Table.marks` are the columns that a line of dashes marks, `Table.cellsBy` is what stands there in a line.
* `Table.marks_rule`: the dashes of a table mark its columns.
* `Table.cellsBy_textRow`: what was put into the columns is got back.
* **`Table.cells_render`** reads a table, **`renderReport_read_back`** a report.
-/

namespace FunctionChurn

open Text

namespace Table

/-! ## Reading -/

/-- **The columns that a line of dashes marks**: where each run of dashes begins, and its length.  `run` is the
length of the run that begins at `start`, as far as it has been read. -/
def marksFrom : (start run : Nat) → List Char → List (Nat × Nat)
  | start, run, [] => if run = 0 then [] else [(start, run)]
  | start, run, c :: rest =>
      if c = '-' then marksFrom start (run + 1) rest
      else if run = 0 then marksFrom (start + 1) 0 rest
      else (start, run) :: marksFrom (start + run + 1) 0 rest

/-- The columns that a line of dashes marks. -/
def marks (dashes : List Char) : List (Nat × Nat) := marksFrom 0 0 dashes

/-- What stands in a column of a line, the blanks around it left out. -/
def cut (line : List Char) (mark : Nat × Nat) : String :=
  Text.trim (String.ofList ((line.drop mark.1).take mark.2))

/-- **The cells of a line**, by the dashes above it. -/
def cellsBy (dashes line : List Char) : List String := (marks dashes).map (cut line)

/-! ## Marks -/

lemma marksFrom_dashes (n start run : Nat) (rest : List Char) :
    marksFrom start run (List.replicate n '-' ++ rest) = marksFrom start (run + n) rest := by
  induction n generalizing run with
  | zero => rfl
  | succ n ih =>
      rw [List.replicate_succ, List.cons_append, marksFrom, if_pos rfl, ih]
      congr 1
      omega

/-- Behind the last dash nothing is marked but the run that it ends. -/
lemma marksFrom_of_notMem {behind : List Char} (h : '-' ∉ behind) (start run : Nat) :
    marksFrom start run behind = marksFrom start run [] := by
  induction behind generalizing start run with
  | nil => rfl
  | cons c behind ih =>
      rw [List.mem_cons, not_or] at h
      by_cases hrun : run = 0
      · simp [marksFrom, Ne.symm h.1, hrun, ih h.2]
      · simp [marksFrom, Ne.symm h.1, hrun, ih h.2]

/-- What is behind the last dash makes no difference. -/
lemma marksFrom_append {cs behind : List Char} (h : '-' ∉ behind) (start run : Nat) :
    marksFrom start run (cs ++ behind) = marksFrom start run cs := by
  induction cs generalizing start run with
  | nil => exact marksFrom_of_notMem h start run
  | cons c cs ih => simp only [List.cons_append, marksFrom, ih]

/-- The columns of some widths, from a position on, two apart. -/
def places : (start : Nat) → List Nat → List (Nat × Nat)
  | _, [] => []
  | start, w :: widths => (start, w) :: places (start + w + 2) widths

lemma length_places (start : Nat) (widths : List Nat) : (places start widths).length = widths.length := by
  induction widths generalizing start with
  | nil => rfl
  | cons w widths ih => rw [places, List.length_cons, List.length_cons, ih]

/-- Runs of dashes two apart mark columns two apart. -/
lemma marksFrom_joined : ∀ (widths : List Nat) (start : Nat), (∀ w ∈ widths, 0 < w) →
    marksFrom start 0 (((widths.map fun w => List.replicate w '-').intersperse [' ', ' ']).flatten)
      = places start widths
  | [], _, _ => rfl
  | [w], start, h => by
      have hw : 0 < w := h w (by simp)
      have hdashes := marksFrom_dashes w start 0 []
      rw [List.append_nil, Nat.zero_add] at hdashes
      simp [hdashes, marksFrom, places]
      omega
  | w :: next :: widths, start, h => by
      have hw : 0 < w := h w (by simp)
      have ih := marksFrom_joined (next :: widths) (start + w + 2) fun v hv =>
        h v (List.mem_cons_of_mem _ hv)
      rw [List.map_cons] at ih
      rw [List.map_cons, List.map_cons, List.intersperse_cons_cons, List.flatten_cons, List.flatten_cons,
        marksFrom_dashes, Nat.zero_add, places, ← ih]
      have hne : w ≠ 0 := by omega
      simp [marksFrom, hne]

/-- **The dashes of a table mark its columns.** -/
lemma marks_rule {widths : List Nat} (h : ∀ w ∈ widths, 0 < w) : marks (rule widths) = places 0 widths := by
  obtain ⟨behind, hjoined, hblank⟩ :=
    exists_eq_trimEnd (((widths.map fun w => List.replicate w '-').intersperse [' ', ' ']).flatten)
  have hdash : '-' ∉ behind := fun hmem => absurd (hblank _ hmem) (by decide)
  rw [marks, rule, textRow, ← marksFrom_append hdash, ← hjoined, marksFrom_joined widths 0 h]

/-! ## Cells -/

/-- What was put into columns two apart is got back. -/
lemma take_places : ∀ (fields : List (List Char)) (front : List Char),
    (places front.length (fields.map List.length)).map
        (fun mark => ((front ++ (fields.intersperse [' ', ' ']).flatten).drop mark.1).take mark.2)
      = fields
  | [], _ => rfl
  | [field], front => by simp [places]
  | field :: next :: fields, front => by
      have ih := take_places (next :: fields) (front ++ field ++ [' ', ' '])
      have hlength : (front ++ field ++ [' ', ' ']).length = front.length + field.length + 2 := by
        simp [Nat.add_assoc]
      have hline : front ++ ((field :: next :: fields).intersperse [' ', ' ']).flatten
          = front ++ field ++ [' ', ' '] ++ ((next :: fields).intersperse [' ', ' ']).flatten := by
        simp [List.intersperse_cons_cons]
      rw [hlength] at ih
      rw [List.map_cons, places, List.map_cons, hline, ih]
      simp

/-- The blanks that a line lost at its end belong to no cell. -/
lemma cut_trimEnd (line : List Char) (mark : Nat × Nat) : cut (trimEnd line) mark = cut line mark := by
  obtain ⟨behind, hline, hblank⟩ := exists_eq_trimEnd line
  have hsplit : (line.drop mark.1).take mark.2 = ((trimEnd line).drop mark.1).take mark.2
      ++ (behind.drop (mark.1 - (trimEnd line).length)).take
        (mark.2 - ((trimEnd line).drop mark.1).length) := by
    conv_lhs => rw [hline, List.drop_append, List.take_append]
  have hrest : ∀ c ∈ (behind.drop (mark.1 - (trimEnd line).length)).take
      (mark.2 - ((trimEnd line).drop mark.1).length), isBlank c = true :=
    fun c hc => hblank c (List.mem_of_mem_drop (List.mem_of_mem_take hc))
  have htrim := trim_between [] (((trimEnd line).drop mark.1).take mark.2) _ (by simp) hrest
  rw [cut, cut, hsplit, Text.trim, Text.trim, String.toList_ofList, String.toList_ofList, ← htrim,
    List.nil_append]

/-- **What was put into the columns of a line is got back**, the blanks around it left out. -/
lemma cellsBy_textRow {fields : List (List Char)} (h : ∀ field ∈ fields, field ≠ []) :
    cellsBy (rule (fields.map List.length)) (textRow fields)
      = fields.map fun field => Text.trim (String.ofList field) := by
  have hpos : ∀ w ∈ fields.map List.length, 0 < w := by
    intro w hw
    obtain ⟨field, hfield, rfl⟩ := List.mem_map.mp hw
    exact List.length_pos_of_ne_nil (h field hfield)
  have hfields := take_places fields []
  rw [List.length_nil] at hfields
  rw [cellsBy, marks_rule hpos]
  conv_rhs => rw [← hfields, List.map_map]
  exact List.map_congr_left fun mark _ => cut_trimEnd _ mark

/-! ## Lines -/

/-- A line holds the characters of its fields, and spaces. -/
lemma mem_of_mem_textRow {fields : List (List Char)} {c : Char} (h : c ∈ textRow fields) :
    c = ' ' ∨ ∃ field ∈ fields, c ∈ field := by
  obtain ⟨behind, hjoined, -⟩ := exists_eq_trimEnd ((fields.intersperse [' ', ' ']).flatten)
  have hmem : c ∈ (fields.intersperse [' ', ' ']).flatten := by
    rw [hjoined]
    exact List.mem_append_left _ h
  exact (mem_joined hmem).imp_left fun hgap => by simpa using hgap

/-- A line in which something is to be seen is not empty. -/
lemma textRow_ne_nil {fields : List (List Char)} {c : Char} (h : ∃ field ∈ fields, c ∈ field)
    (hshown : isBlank c = false) : textRow fields ≠ [] := by
  obtain ⟨behind, hjoined, hblank⟩ := exists_eq_trimEnd ((fields.intersperse [' ', ' ']).flatten)
  intro hempty
  have hmem := mem_joined_of_mem [' ', ' '] h
  rw [hjoined, ← textRow, hempty, List.nil_append] at hmem
  exact absurd (hblank c hmem) (by simp [hshown])

/-- **A line of texts that are shown as they are** is one line, and is not empty. -/
lemma textRow_line {fields : List (List Char)} (hne : fields ≠ [])
    (h : ∀ field ∈ fields, ∃ side width cs, Text.IsShown cs ∧ field = Cell.pad side width cs) :
    textRow fields ≠ [] ∧ ∀ c ∈ textRow fields, endsLine c = false := by
  constructor
  · obtain ⟨field, rest, rfl⟩ := List.exists_cons_of_ne_nil hne
    obtain ⟨side, width, cs, hcs, hfield⟩ := h field (by simp)
    obtain ⟨c, tail, rfl⟩ := List.exists_cons_of_ne_nil hcs.ne_nil
    have hmem : c ∈ field := by
      rw [hfield]
      exact Cell.mem_pad side width (by simp)
    exact textRow_ne_nil ⟨field, by simp, hmem⟩ (hcs.front c rfl)
  · intro c hc
    rcases mem_of_mem_textRow hc with rfl | ⟨field, hmem, hfield⟩
    · decide
    · obtain ⟨side, width, cs, hcs, rfl⟩ := h field hmem
      rcases Cell.mem_of_mem_pad side width hfield with rfl | hcell
      · decide
      · exact hcs.unbroken c hcell

variable {columns : List Column} {rows : List (List String)} {row : List String}

lemma length_fitted (h : row ∈ rows) :
    (fitted columns rows row).map List.length = columns.mapIdx (fit rows) := by
  refine List.ext_getElem (by simp [fitted]) fun i hi _ => ?_
  rw [List.getElem_map, List.getElem_mapIdx]
  simp only [fitted, List.getElem_mapIdx]
  exact Cell.length_pad _ (length_le_fit h)

lemma IsShown.pad_of_mem (h : IsShown columns rows) (hrow : row ∈ rows) {field : List Char}
    (hfield : field ∈ fitted columns rows row) :
    ∃ side width cs, Text.IsShown cs ∧ field = Cell.pad side width cs := by
  obtain ⟨i, hi, rfl⟩ := List.mem_mapIdx.mp hfield
  exact ⟨_, _, _, h.cell hrow hi, rfl⟩

/-- **The cells of a row are got back from its line.** -/
lemma IsShown.cellsBy_fitted (h : IsShown columns rows) (hrow : row ∈ rows) :
    cellsBy (rule (columns.mapIdx (fit rows))) (textRow (fitted columns rows row)) = row := by
  have hne : ∀ field ∈ fitted columns rows row, field ≠ [] := by
    intro field hfield
    obtain ⟨side, width, cs, hcs, rfl⟩ := h.pad_of_mem hrow hfield
    obtain ⟨c, tail, rfl⟩ := List.exists_cons_of_ne_nil hcs.ne_nil
    exact List.ne_nil_of_mem (Cell.mem_pad side width List.mem_cons_self)
  rw [← length_fitted hrow, cellsBy_textRow hne]
  refine List.ext_getElem (by simp [fitted, h.full row hrow]) fun i hi hi' => ?_
  have hcolumn : i < columns.length := by simpa [fitted] using hi
  have htrim := Cell.trim_pad columns[i].side (fit rows i columns[i]) (h.cell hrow hcolumn)
  simp only [fitted, List.getElem_map, List.getElem_mapIdx]
  rw [Text.trim, String.toList_ofList, htrim, String.ofList_toList, List.getD_eq_getElem?_getD,
    List.getElem?_eq_getElem hi', Option.getD_some]

/-- **A table of texts that are shown as they are is read back** by its dashes. -/
theorem cells_render (h : IsShown columns rows) : ∃ titles dashes body,
    linesBy endsLine [] (render .simple columns rows).toList = titles :: dashes :: body
      ∧ (∀ c ∈ dashes, c = '-' ∨ c = ' ') ∧ (marks dashes).length = columns.length
      ∧ body.map (cellsBy dashes) = rows := by
  have hwidths : ∀ w ∈ columns.mapIdx (fit rows), 0 < w := by
    intro w hw
    obtain ⟨i, hi, rfl⟩ := List.mem_mapIdx.mp hw
    exact fit_pos
  have htitles : textRow (titled columns rows) ≠ []
      ∧ ∀ c ∈ textRow (titled columns rows), endsLine c = false := by
    refine textRow_line (by simpa [titled] using h.columns_ne_nil) fun field hfield => ?_
    obtain ⟨i, hi, rfl⟩ := List.mem_mapIdx.mp hfield
    exact ⟨_, _, _, h.titles _ (List.getElem_mem hi), rfl⟩
  have hdashes : rule (columns.mapIdx (fit rows)) ≠ []
      ∧ ∀ c ∈ rule (columns.mapIdx (fit rows)), endsLine c = false := by
    refine textRow_line (by simpa using h.columns_ne_nil) fun field hfield => ?_
    obtain ⟨w, hw, rfl⟩ := List.mem_map.mp hfield
    have hne : List.replicate w '-' ≠ [] := by simpa using Nat.ne_of_gt (hwidths w hw)
    refine ⟨.left, 0, List.replicate w '-', isShown_of_ascii hne fun c hc => ?_,
      by simp [Cell.pad, Cell.spaces]⟩
    rw [List.eq_of_mem_replicate hc]
    decide
  have hbody : ∀ row ∈ rows, textRow (fitted columns rows row) ≠ []
      ∧ ∀ c ∈ textRow (fitted columns rows row), endsLine c = false := fun row hrow =>
    textRow_line (by simpa [fitted] using h.columns_ne_nil) fun _ => h.pad_of_mem hrow
  refine ⟨textRow (titled columns rows), rule (columns.mapIdx (fit rows)),
    rows.map fun row => textRow (fitted columns rows row), ?_, ?_, ?_, ?_⟩
  · rw [render_shown h, linesBy_joined]
    rw [List.forall_mem_cons, List.forall_mem_cons, List.forall_mem_map]
    exact ⟨htitles, hdashes, hbody⟩
  · intro c hc
    rcases mem_of_mem_textRow hc with hspace | ⟨field, hfield, hmem⟩
    · exact .inr hspace
    · obtain ⟨w, -, rfl⟩ := List.mem_map.mp hfield
      exact .inl (List.eq_of_mem_replicate hmem)
  · rw [marks_rule hwidths, length_places, List.length_mapIdx]
  · rw [List.map_map]
    conv_rhs => rw [← List.map_id rows]
    exact List.map_congr_left fun row hrow => h.cellsBy_fitted hrow

end Table

/-! ## Reports -/

/-- The columns and rows of a report make a table. -/
lemma isShown_report {rows : List Row}
    (h : ∀ r ∈ rows, Text.IsShown r.file.toList ∧ Text.IsShown r.name.toList) :
    Table.IsShown reportColumns (rows.map Row.cells) where
  columns_ne_nil := by simp [reportColumns]
  titles c hc := by
    simp only [reportColumns, List.mem_cons, List.not_mem_nil, or_false] at hc
    rcases hc with rfl | rfl | rfl | rfl <;> exact isShown_of_ascii (by decide) (by simp)
  full row hrow := by
    obtain ⟨r, -, rfl⟩ := List.mem_map.mp hrow
    rfl
  cells row hrow cell hcell := by
    obtain ⟨r, hr, rfl⟩ := List.mem_map.mp hrow
    simp only [Row.cells, List.mem_cons, List.not_mem_nil, or_false] at hcell
    rcases hcell with rfl | rfl | rfl | rfl
    · exact (h r hr).1
    · exact isShown_toString r.line
    · exact (h r hr).2
    · exact isShown_toString r.freq

/-- A row is known by its cells. -/
lemma Row.cells_inj {r s : Row} (h : r.cells = s.cells) : r = s := by
  simp only [Row.cells, List.cons.injEq, and_true] at h
  obtain ⟨hfile, hline, hname, hfreq⟩ := h
  cases r
  cases s
  simp only [Row.mk.injEq]
  exact ⟨hfile, toString_inj hline, hname, toString_inj hfreq⟩

/-- **A report is read back.**  If files and names are shown as they are, it has two lines and one for each row,
the second line marks four columns, and in a row's line they hold the row's file, line, name and frequency,
digit by digit; so a report is printed for one list of rows only. -/
theorem renderReport_read_back (rows : List Row)
    (h : ∀ r ∈ rows, Text.IsShown r.file.toList ∧ Text.IsShown r.name.toList) :
    (∃ titles dashes body,
      linesBy endsLine [] (renderReport .simple rows).toList = titles :: dashes :: body
        ∧ body.length = rows.length
        ∧ (∀ c ∈ dashes, c = '-' ∨ c = ' ') ∧ (Table.marks dashes).length = 4
        ∧ body.map (Table.cellsBy dashes)
          = rows.map fun r => [r.file, toString r.line, r.name, toString r.freq])
      ∧ ∀ others : List Row, (∀ r ∈ others, Text.IsShown r.file.toList ∧ Text.IsShown r.name.toList) →
        renderReport .simple others = renderReport .simple rows → others = rows := by
  obtain ⟨titles, dashes, body, hlines, hdashes, hmarks, hcells⟩ :=
    Table.cells_render (isShown_report h)
  have hlength := congrArg List.length hcells
  rw [List.length_map, List.length_map] at hlength
  refine ⟨⟨titles, dashes, body, hlines, hlength, hdashes, hmarks, hcells⟩, fun others hothers hsame => ?_⟩
  obtain ⟨titles', dashes', body', hlines', -, -, hcells'⟩ := Table.cells_render (isShown_report hothers)
  -- one text has one line of dashes, and with it the lines of both are read
  change linesBy endsLine [] (renderReport .simple others).toList = _ at hlines'
  change linesBy endsLine [] (renderReport .simple rows).toList = _ at hlines
  rw [hsame, hlines, List.cons.injEq, List.cons.injEq] at hlines'
  obtain ⟨-, rfl, rfl⟩ := hlines'
  exact List.map_injective_iff.mpr (fun _ _ => Row.cells_inj) (hcells'.symm.trans hcells)

namespace Sample

/-- Texts that look like numbers, and one with a gap as wide as that between columns. -/
def gaps : List Row := [⟨"1.50", 3, "(s *Stack)  Push", 12⟩, ⟨"007", 10, "1e5", 0⟩]

end Sample

/-- Neither gaps nor texts that look like numbers are in the way. -/
theorem renderReport_read_back_gaps :
    (∀ r ∈ Sample.gaps, Text.IsShown r.file.toList ∧ Text.IsShown r.name.toList)
      ∧ ∃ titles dashes body,
        linesBy endsLine [] (renderReport .simple Sample.gaps).toList = titles :: dashes :: body
          ∧ body.map (Table.cellsBy dashes)
            = [["1.50", "3", "(s *Stack)  Push", "12"], ["007", "10", "1e5", "0"]]
          ∧ renderReport .simple Sample.gaps.reverse ≠ renderReport .simple Sample.gaps := by
  have hshown : ∀ r ∈ Sample.gaps, Text.IsShown r.file.toList ∧ Text.IsShown r.name.toList := by decide
  obtain ⟨⟨titles, dashes, body, hlines, -, -, -, hcells⟩, hone⟩ :=
    renderReport_read_back Sample.gaps hshown
  refine ⟨hshown, titles, dashes, body, hlines, hcells.trans (by decide), fun hsame => ?_⟩
  exact absurd (hone Sample.gaps.reverse (by decide) hsame) (by decide)

end FunctionChurn
