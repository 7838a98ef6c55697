import FunctionChurn.Proofs.Text.Shown
import FunctionChurn.Report.Table

/-!
# Tables of texts that are shown as they are

What can happen to the texts of a table is much: blanks are left out, cells are taken apart into lines,
escapes take no room, and a row may stand for a rule.  Nothing of it happens to texts that are shown as they
are, and what is left is a table as one expects it.

* `Table.IsShown` is a table of such texts, with one for each column in every row.
* `Table.fit` is the width of a column, `Table.fitted` a row with its cells filled up to the widths.
* **`Table.render_shown`** are the lines of the table: its titles, its dashes, and each row in a line.
-/

namespace FunctionChurn

open Text

/-! ## The mode -/

namespace TableMode

lemma escape_notMem {cs : List Char} (h : ∀ c ∈ cs, isControl c = false) : escapeChar ∉ cs :=
  fun hmem => absurd (h _ hmem) (by decide)

/-- Texts without control characters are printed line by line and hold no escapes. -/
lemma of_uncontrolled {texts : List (List Char)} (h : ∀ cs ∈ texts, ∀ c ∈ cs, isControl c = false) :
    TableMode.of texts = ⟨false, false⟩ := by
  have hall : ∀ c ∈ (texts.intersperse ['\t']).flatten, c = '\t' ∨ isControl c = false := by
    intro c hc
    rcases mem_joined hc with htab | ⟨cs, hcs, hmem⟩
    · exact .inl (List.mem_singleton.mp htab)
    · exact .inr (h cs hcs c hmem)
  have hlines : (texts.intersperse ['\t']).flatten.any (fun c => c == '\n' || c == '\r') = false := by
    rw [List.any_eq_false]
    intro c hc
    rcases hall c hc with rfl | hcontrol
    · decide
    · rw [Bool.or_eq_true, beq_iff_eq, beq_iff_eq]
      rintro (rfl | rfl) <;> exact absurd hcontrol (by decide)
  have hescapes : escapeChar ∉ (texts.intersperse ['\t']).flatten := by
    intro hmem
    rcases hall _ hmem with htab | hcontrol
    · exact absurd htab (by decide)
    · exact absurd hcontrol (by decide)
  rw [TableMode.of, hlines, hasEscape_of_notMem hescapes]

lemma room_eq {cs : List Char} (h : ∀ c ∈ cs, isControl c = false) :
    room ⟨false, false⟩ cs = cs.length := by
  simp [room, measured, Cell.room, visible_of_notMem (escape_notMem h)]

lemma padded_eq {cs : List Char} (h : ∀ c ∈ cs, isControl c = false) (side : Side) (width : Nat) :
    padded ⟨false, false⟩ side width cs = [Cell.pad side width cs] := by
  simp [padded, lines, measured, Cell.room, visible_of_notMem (escape_notMem h)]

end TableMode

/-! ## Cells -/

namespace Cell

variable {cs : List Char} (side : Side) (width : Nat)

lemma length_pad {width : Nat} (h : cs.length ≤ width) : (pad side width cs).length = width := by
  cases side <;> simp [pad, spaces] <;> omega

lemma mem_pad {c : Char} (h : c ∈ cs) : c ∈ pad side width cs := by
  cases side with
  | left => exact List.mem_append_left _ h
  | right => exact List.mem_append_right _ h

lemma mem_of_mem_pad {c : Char} (h : c ∈ pad side width cs) : c = ' ' ∨ c ∈ cs := by
  cases side with
  | left => exact (List.mem_append.mp h).symm.imp_left List.eq_of_mem_replicate
  | right => exact (List.mem_append.mp h).imp_left List.eq_of_mem_replicate

/-- Padding shows as it is. -/
lemma uncontrolled_pad (h : ∀ c ∈ cs, isControl c = false) :
    ∀ c ∈ pad side width cs, isControl c = false := by
  intro c hc
  rcases mem_of_mem_pad side width hc with rfl | hcell
  · decide
  · exact h c hcell

/-- Padding is left out again. -/
lemma trim_pad (h : IsShown cs) : trimEnd (trimStart (pad side width cs)) = cs := by
  have hspaces : ∀ c ∈ spaces (width - cs.length), isBlank c = true := by
    intro c hc
    rw [List.eq_of_mem_replicate hc]
    decide
  cases side with
  | left =>
      have htrim := trim_between [] cs _ (by simp) hspaces
      rw [List.nil_append, h.trimmed] at htrim
      exact htrim
  | right =>
      have htrim := trim_between _ cs [] hspaces (by simp)
      rw [List.append_nil, h.trimmed] at htrim
      exact htrim

end Cell

namespace Table

/-! ## Widths -/

lemma foldl_max_le_iff {m : Nat} (ns : List Nat) (start : Nat) :
    ns.foldl max start ≤ m ↔ start ≤ m ∧ ∀ n ∈ ns, n ≤ m := by
  induction ns generalizing start with
  | nil => simp
  | cons n ns ih => rw [List.foldl_cons, ih, List.forall_mem_cons, Nat.max_le, and_assoc]

/-- **The width of a column of texts that are shown as they are.** -/
def fit (rows : List (List String)) (i : Nat) (c : Column) : Nat :=
  (rows.map fun row => (row.getD i "").toList.length).foldl max (c.title.length + titleRoom)

/-- **The cells of a row**, each filled up to the width of its column. -/
def fitted (columns : List Column) (rows : List (List String)) (row : List String) : List (List Char) :=
  columns.mapIdx fun i c => Cell.pad c.side (fit rows i c) (row.getD i "").toList

/-- **A table of texts that are shown as they are**, with one for each column in every row. -/
structure IsShown (columns : List Column) (rows : List (List String)) : Prop where
  columns_ne_nil : columns ≠ []
  titles : ∀ c ∈ columns, Text.IsShown c.title
  full : ∀ row ∈ rows, row.length = columns.length
  cells : ∀ row ∈ rows, ∀ cell ∈ row, Text.IsShown cell.toList

variable {columns : List Column} {rows : List (List String)} {row : List String} {i : Nat} {c : Column}

lemma length_le_fit (h : row ∈ rows) : (row.getD i "").toList.length ≤ fit rows i c :=
  ((foldl_max_le_iff _ _).mp (Nat.le_refl (fit rows i c))).2 _
    (List.mem_map.mpr ⟨row, h, rfl⟩)

lemma title_le_fit : c.title.length + titleRoom ≤ fit rows i c :=
  ((foldl_max_le_iff _ _).mp (Nat.le_refl (fit rows i c))).1

/-- A column of cells that are as wide as the column needs no other width. -/
lemma foldl_max_fit :
    (rows.map fun _ => fit rows i c).foldl max (c.title.length + titleRoom) = fit rows i c := by
  obtain ⟨htitle, hrows⟩ := (foldl_max_le_iff (rows.map fun _ => fit rows i c)
    (c.title.length + titleRoom)).mp (Nat.le_refl _)
  refine Nat.le_antisymm ((foldl_max_le_iff _ _).mpr ⟨title_le_fit, ?_⟩)
    ((foldl_max_le_iff _ _).mpr ⟨htitle, ?_⟩)
  · intro n hn
    obtain ⟨row, -, rfl⟩ := List.mem_map.mp hn
    exact Nat.le_refl _
  · intro n hn
    obtain ⟨row, hrow, rfl⟩ := List.mem_map.mp hn
    exact (length_le_fit hrow).trans (hrows _ (List.mem_map.mpr ⟨row, hrow, rfl⟩))

lemma fit_pos : 0 < fit rows i c :=
  Nat.lt_of_lt_of_le (by decide : 0 < titleRoom) ((Nat.le_add_left _ _).trans title_le_fit)

lemma IsShown.cell (h : IsShown columns rows) (hrow : row ∈ rows) (hi : i < columns.length) :
    Text.IsShown (row.getD i "").toList := by
  rw [← h.full row hrow] at hi
  rw [List.getD_eq_getElem?_getD, List.getElem?_eq_getElem hi]
  exact h.cells row hrow _ (List.getElem_mem hi)

lemma IsShown.not_isRule (h : IsShown columns rows) (hrow : row ∈ rows) : isRule row = false := by
  cases row with
  | nil => rfl
  | cons cell cells =>
      have hcell := h.cells _ hrow cell (by simp)
      rw [isRule, Cell.stripped, hcell.trimmed, beq_eq_false_iff_ne]
      intro hmark
      exact absurd (hcell.uncontrolled '\x01' (by simp [hmark])) (by decide)

/-! ## Columns -/

lemma IsShown.columnCells_eq (h : IsShown columns rows) (hi : i < columns.length) :
    columnCells rows i = rows.map fun row => (row.getD i "").toList :=
  List.map_congr_left fun _ hrow => (h.cell hrow hi).trimmed

lemma IsShown.width_eq (h : IsShown columns rows) (hi : i < columns.length) :
    width ⟨false, false⟩ columns[i] (columnCells rows i) = fit rows i columns[i] := by
  have htitle := TableMode.room_eq (h.titles _ (List.getElem_mem hi)).uncontrolled
  have hcells : (rows.map fun row => TableMode.room ⟨false, false⟩ (row.getD i "").toList)
      = rows.map fun row => (row.getD i "").toList.length :=
    List.map_congr_left fun _ hrow => TableMode.room_eq (h.cell hrow hi).uncontrolled
  rw [width, h.columnCells_eq hi, List.map_map, htitle, fit, ← hcells]
  rfl

/-- **The cells of a column**, each in a line and filled up to the width of the column. -/
lemma IsShown.padded_eq (h : IsShown columns rows) (hi : i < columns.length) :
    (columnCells rows i).map
        (TableMode.padded ⟨false, false⟩ columns[i].side
          (width ⟨false, false⟩ columns[i] (columnCells rows i)))
      = rows.map fun row => [Cell.pad columns[i].side (fit rows i columns[i]) (row.getD i "").toList] := by
  rw [h.width_eq hi, h.columnCells_eq hi, List.map_map]
  exact List.map_congr_left fun _ hrow => TableMode.padded_eq (h.cell hrow hi).uncontrolled _ _

/-- Padding makes no column wider. -/
lemma IsShown.paddedWidth_eq (h : IsShown columns rows) (hi : i < columns.length) :
    paddedWidth ⟨false, false⟩ columns[i]
        (rows.map fun row => [Cell.pad columns[i].side (fit rows i columns[i]) (row.getD i "").toList])
      = fit rows i columns[i] := by
  have htitle := TableMode.room_eq (h.titles _ (List.getElem_mem hi)).uncontrolled
  have hroom : ∀ row ∈ rows,
      Cell.room (Cell.pad columns[i].side (fit rows i columns[i]) (row.getD i "").toList)
        = fit rows i columns[i] := by
    intro row hrow
    have hcell := Cell.uncontrolled_pad columns[i].side (fit rows i columns[i])
      (h.cell hrow hi).uncontrolled
    rw [Cell.room, visible_of_notMem (TableMode.escape_notMem hcell),
      Cell.length_pad _ (length_le_fit hrow)]
  have hwidest : (rows.map fun row =>
      [Cell.pad columns[i].side (fit rows i columns[i]) (row.getD i "").toList]).map
      (fun lines => (lines.map Cell.room).foldl max 0) = rows.map fun _ => fit rows i columns[i] := by
    rw [List.map_map]
    refine List.map_congr_left fun row hrow => ?_
    rw [Function.comp_apply, List.map_singleton, hroom row hrow, List.foldl_cons, List.foldl_nil,
      Nat.zero_max]
  rw [paddedWidth, htitle, hwidest, foldl_max_fit]

/-! ## The lines of a table -/

/-- The titles of a table, each filled up to the width of its column. -/
def titled (columns : List Column) (rows : List (List String)) : List (List Char) :=
  columns.mapIdx fun i c => Cell.pad (if rows.isEmpty then .left else c.side) (fit rows i c) c.title

lemma zipWith_mapIdx {α β γ : Type} (f : α → β → γ) (g : Nat → α → β) (xs : List α) :
    xs.zipWith f (xs.mapIdx g) = xs.mapIdx fun i x => f x (g i x) :=
  List.ext_getElem (by simp) (by simp)

/-- Cells of one line each make a row of one line. -/
lemma rowLines_singletons {widths : List Nat} {fields : List (List Char)} (hne : fields ≠ [])
    (hlength : widths.length = fields.length) :
    rowLines widths (fields.map fun field => [field]) = [textRow fields] := by
  have hheight : ((fields.map fun field => [field]).map List.length).foldl max 0 = 1 := by
    refine Nat.le_antisymm ((foldl_max_le_iff _ _).mpr ⟨by decide, by simp⟩) ?_
    obtain ⟨field, rest, rfl⟩ := List.exists_cons_of_ne_nil hne
    exact ((foldl_max_le_iff _ _).mp (Nat.le_refl _)).2 1 (by simp)
  have hfields : (fields.map fun field => [field]).zipWith
      (fun lines w => lines.getD 0 (Cell.spaces w)) widths = fields :=
    List.ext_getElem (by simp [hlength]) (by simp)
  rw [rowLines, hheight, List.range_one, List.map_singleton, lineOf, hfields]

/-- Without rules among the rows, their lines follow each other. -/
lemma spliced_map {mark : List Char} {line : List String → List Char} :
    ∀ {rows : List (List String)}, (∀ row ∈ rows, isRule row = false) →
      spliced mark rows (rows.map fun row => [line row]) = rows.map line
  | [], _ => rfl
  | row :: rows, h => by
      rw [List.forall_mem_cons] at h
      rw [List.map_cons, spliced, h.1, if_neg (by decide), spliced_map h.2]
      rfl

/-- The row of a number, printed. -/
lemma IsShown.printed_eq (h : IsShown columns rows) :
    ((List.range rows.length).map fun r => rowLines (columns.mapIdx (fit rows))
      ((columns.mapIdx fun i c => rows.map fun row =>
        [Cell.pad c.side (fit rows i c) (row.getD i "").toList]).map fun cells => cells.getD r []))
      = rows.map fun row => [textRow (fitted columns rows row)] := by
  refine List.ext_getElem (by simp) fun r hr _ => ?_
  rw [List.length_map, List.length_range] at hr
  have hcells : (columns.mapIdx fun i c => rows.map fun row =>
      [Cell.pad c.side (fit rows i c) (row.getD i "").toList]).map (fun cells => cells.getD r [])
      = (fitted columns rows rows[r]).map fun field => [field] :=
    List.ext_getElem (by simp [fitted]) (by simp [fitted, hr])
  have hne : fitted columns rows rows[r] ≠ [] := by simpa [fitted] using h.columns_ne_nil
  rw [List.getElem_map, List.getElem_range, hcells, rowLines_singletons hne (by simp [fitted]),
    List.getElem_map]

/-- **A table of texts that are shown as they are** has a line of titles, a line of dashes and a line for each
row. -/
theorem render_shown (h : IsShown columns rows) :
    (render .simple columns rows).toList
      = ((textRow (titled columns rows) :: rule (columns.mapIdx (fit rows))
          :: rows.map fun row => textRow (fitted columns rows row)).intersperse ['\n']).flatten := by
  have hrules : ∀ row ∈ rows, isRule row = false := fun _ => h.not_isRule
  have hbody : (rows.filter fun row => !isRule row) = rows := by
    rw [List.filter_eq_self]
    intro row hrow
    rw [hrules row hrow]
    rfl
  have hmode : TableMode.of (columns.map Column.title ++ rows.flatten.map String.toList)
      = ⟨false, false⟩ := by
    refine TableMode.of_uncontrolled fun cs hcs => ?_
    rcases List.mem_append.mp hcs with htitle | hcell
    · obtain ⟨c, hc, rfl⟩ := List.mem_map.mp htitle
      exact (h.titles c hc).uncontrolled
    · obtain ⟨cell, hmem, rfl⟩ := List.mem_map.mp hcell
      obtain ⟨row, hrow, hcell⟩ := List.mem_flatten.mp hmem
      exact (h.cells row hrow cell hcell).uncontrolled
  have hgrid : (columns.mapIdx fun i c => (columnCells rows i).map
        (TableMode.padded ⟨false, false⟩ c.side (width ⟨false, false⟩ c (columnCells rows i))))
      = columns.mapIdx fun i c => rows.map fun row =>
        [Cell.pad c.side (fit rows i c) (row.getD i "").toList] :=
    List.mapIdx_eq_mapIdx_iff.mpr fun i hi => h.padded_eq hi
  have hwidths : columns.zipWith (paddedWidth ⟨false, false⟩) (columns.mapIdx fun i c => rows.map fun row =>
        [Cell.pad c.side (fit rows i c) (row.getD i "").toList])
      = columns.mapIdx (fit rows) := by
    rw [zipWith_mapIdx]
    exact List.mapIdx_eq_mapIdx_iff.mpr fun i hi => h.paddedWidth_eq hi
  have htitles : columns.zipWith (fun c w => Cell.pad (if rows.isEmpty then .left else c.side) w c.title)
      (columns.mapIdx (fit rows)) = titled columns rows := zipWith_mapIdx _ _ _
  simp only [render, hbody, hmode, hgrid, hwidths, htitles, h.printed_eq, spliced_map hrules, underline,
    List.singleton_append, String.toList_ofList]

end Table

end FunctionChurn
