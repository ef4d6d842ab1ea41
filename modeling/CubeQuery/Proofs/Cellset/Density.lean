import CubeQuery.Cellset.Decode
import CubeQuery.Proofs.Outcome
import CubeQuery.Proofs.Report.RunningCells

set_option autoImplicit false

/-!
# Density of decoded cellsets

A cellset read from XML has exactly the cells that its axes span, whatever cells were left out or
numbered. Reports address the cells row by row, in blocks as wide as a row, and each of these blocks
lies within the cells of a dense cellset.

Main statements: a decoded cellset is dense and its reports lack no cell
(`decoded_dense_and_indexable`), because a report lacks no cell as soon as there is one for every
pair of a row and a column (`tableRows?_lacks_no_cell`, `chart?_lacks_no_cell`).
-/

namespace CubeQuery

/-- Whether an error says that a cell is missing. -/
def Error.isMissingCell : Error → Bool
  | invalidResponse (.noCell _ _) => true
  | _ => false

/-- Whether an error says that the number of cells does not fit the number of rows. -/
def Error.isCellMismatch : Error → Bool
  | invalidResponse (.rowCellMismatch _ _) => true
  | _ => false

/-- Whether an error says that a chart under construction has no place for a value. -/
def Error.isUnprepared : Error → Bool
  | invalidResponse (.unpreparedMeasure _) | invalidResponse (.unpreparedSeries _) => true
  | _ => false

theorem Error.isUnprepared_iff (e : Error) :
    e.isUnprepared = true ↔ (∃ name, e = .invalidResponse (.unpreparedMeasure name)) ∨
      ∃ name, e = .invalidResponse (.unpreparedSeries name) := by
  constructor
  · intro h
    unfold isUnprepared at h
    split at h
    · exact .inl ⟨_, rfl⟩
    · exact .inr ⟨_, rfl⟩
    · cases h
  · rintro (⟨name, rfl⟩ | ⟨name, rfl⟩)
    · rfl
    · rfl

theorem Error.isMissingCell_of_isUnprepared {e : Error} (h : e.isUnprepared = true) :
    e.isMissingCell = false := by
  obtain ⟨name, rfl⟩ | ⟨name, rfl⟩ := e.isUnprepared_iff.1 h
  · rfl
  · rfl

namespace Cellset

/-! ## Decoding -/

/-- Axes that are accepted are at most two. -/
theorem length_axesOf?_le {node : Xml.Node} {axes : List Axis} (h : axesOf? node = .ok axes) :
    axes.length ≤ 2 := by
  unfold axesOf? at h
  obtain ⟨found, -, h⟩ := steps_of_bind_eq_ok h
  by_cases hlen : found.length > 2
  · simp only [hlen, if_true] at h
    cases h
  · simp only [hlen, if_false] at h
    cases h
    omega

/-- A cellset with at most two axes and exactly the cells that its axes span. -/
structure IsDense (c : Cellset) : Prop where
  axes_le : c.axes.length ≤ 2
  size_scalar : c.axes = [] → c.cells.size = 1
  size_columns : ∀ columns, c.axes = [columns] → c.cells.size = columns.tuples.length
  size_table : ∀ columns rows, c.axes = [columns, rows] →
    c.cells.size = columns.tuples.length * rows.tuples.length

/-- A decoded cellset is dense. -/
theorem isDense_of_ofElement? {root : Xml.Node} {c : Cellset} (h : ofElement? root = .ok c) :
    IsDense c := by
  unfold ofElement? at h
  split at h
  · obtain ⟨axes, haxes, h⟩ := steps_of_bind_eq_ok h
    obtain ⟨cells, hcells, h⟩ := steps_of_bind_eq_ok h
    cases h
    have hsize : cells.size = cellCount axes := size_fillCells hcells
    refine ⟨length_axesOf?_le haxes, ?_, ?_, ?_⟩
    · rintro rfl
      exact hsize
    · rintro columns rfl
      exact hsize
    · rintro columns rows rfl
      exact hsize
  · cases h

end Cellset

namespace Report

open Cellset (Axis Tuple)

/-! ## Blocks of cells -/

/-- A cell within the cells of a cellset is found. -/
theorem cellValue?_eq_ok {c : Cellset} {index : Nat} (h : index < c.cells.size) :
    c.cellValue? index = .ok (c.cells[index]?.bind (·.value)) := by
  rw [Cellset.cellValue?, Cellset.cell?, Array.getElem?_eq_getElem h]
  rfl

/-- The values of `count` cells from an index on, absent where there is no cell. -/
def block (c : Cellset) (start count : Nat) : List (Option Value) :=
  (List.range count).map fun offset => c.cells[start + offset]?.bind (·.value)

theorem getElem?_block (c : Cellset) (start : Nat) {count offset : Nat} (h : offset < count) :
    (block c start count)[offset]? = some (c.cells[start + offset]?.bind (·.value)) := by
  rw [block, List.getElem?_map, List.getElem?_range h]
  rfl

/-- A block of cells that ends within the cells of a cellset is found. -/
theorem cellValues?_eq_ok {c : Cellset} {start count : Nat} (h : start + count ≤ c.cells.size) :
    cellValues? c start count = .ok (block c start count) := by
  rw [cellValues?, List.range'_eq_map_range, List.mapM_map]
  apply mapM_eq_ok_map
  intro offset hoffset
  have hlt : offset < count := List.mem_range.1 hoffset
  exact cellValue?_eq_ok (Nat.lt_of_lt_of_le (Nat.add_lt_add_left hlt start) h)

/-- The block of a row ends within the cells if there are cells for all rows. -/
theorem block_end_le {rows width size r : Nat} (hr : r < rows) (h : rows * width ≤ size) :
    r * width + width ≤ size :=
  calc r * width + width = (r + 1) * width := (Nat.succ_mul r width).symm
    _ ≤ rows * width := Nat.mul_le_mul_right width hr
    _ ≤ size := h

/-- The blocks of all rows are found if there are cells for all of them. -/
theorem block_eq_ok {α : Type} {c : Cellset} {xs : List α} {width : Nat}
    (h : xs.length * width ≤ c.cells.size) {entry : α × Nat} (hentry : entry ∈ xs.zipIdx) :
    cellValues? c (entry.2 * width) width = .ok (block c (entry.2 * width) width) := by
  have hr : entry.2 < xs.length := by simpa using List.snd_lt_of_mem_zipIdx hentry
  exact cellValues?_eq_ok (block_end_le hr h)

/-- The rows of an axis with the blocks of their cells. -/
def blocksOf (c : Cellset) (rows : Axis) (width : Nat) : List (Tuple × List (Option Value)) :=
  rows.tuples.zipIdx.map fun entry => (entry.1, block c (entry.2 * width) width)

/-- Reading the rows of an axis finds their blocks if there are cells for all of them. -/
theorem run'_mapM_readRow?_eq_ok {c : Cellset} {rows : Axis} {width : Nat}
    (h : rows.tuples.length * width ≤ c.cells.size) :
    (rows.tuples.mapM (readRow? c width)).run' 0 = .ok (blocksOf c rows width) := by
  rw [run'_mapM_readRow?]
  apply mapM_eq_ok_map
  intro entry hentry
  rw [block_eq_ok h hentry]
  rfl

theorem length_blocksOf (c : Cellset) (rows : Axis) (width : Nat) :
    (blocksOf c rows width).length = rows.tuples.length := by
  rw [blocksOf, List.length_map, List.length_zipIdx]

theorem getElem?_blocksOf (c : Cellset) (rows : Axis) (width r : Nat) :
    (blocksOf c rows width)[r]? =
      rows.tuples[r]?.map fun tuple => (tuple, block c (r * width) width) := by
  rw [blocksOf, List.getElem?_map, List.getElem?_zipIdx, Option.map_map]
  congr 1
  funext tuple
  rw [Function.comp_apply, Nat.zero_add]

theorem getLast?_blocksOf (c : Cellset) (rows : Axis) (width : Nat) :
    (blocksOf c rows width).getLast? = rows.tuples.getLast?.map fun tuple =>
      (tuple, block c ((rows.tuples.length - 1) * width) width) := by
  rw [List.getLast?_eq_getElem?, length_blocksOf, getElem?_blocksOf, List.getLast?_eq_getElem?]

/-! ## Reports -/

/-- There is a cell for every pair of a row and a column. -/
def HasAllCells (c : Cellset) : Prop :=
  ∀ columns rows, c.columnAxis? = .ok columns → c.rowAxis? = .ok rows →
    rows.tuples.length * columns.tuples.length ≤ c.cells.size

theorem columnAxis?_failsOnly (c : Cellset) :
    FailsOnly (fun e => e = .invalidResponse (.noColumnAxis c.counts)) c.columnAxis? := by
  rw [Cellset.columnAxis?]
  split
  · exact FailsOnly.ok _
  · exact FailsOnly.error rfl

theorem rowAxis?_failsOnly (c : Cellset) :
    FailsOnly (fun e => e = .invalidResponse (.noRowAxis c.counts)) c.rowAxis? := by
  rw [Cellset.rowAxis?]
  split
  · exact FailsOnly.ok _
  · exact FailsOnly.error rfl

theorem firstMember?_failsOnly (tuple : Tuple) :
    FailsOnly (fun e => e = .invalidResponse .noMembers) tuple.firstMember? := by
  rw [Tuple.firstMember?]
  split
  · exact FailsOnly.ok _
  · exact FailsOnly.error rfl

/-- Both axes are there or the error says which one is not; it never concerns a cell. -/
theorem axes_lack_no_cell (c : Cellset) :
    FailsOnly (fun e => e.isMissingCell = false) c.columnAxis? ∧
      FailsOnly (fun e => e.isMissingCell = false) c.rowAxis? :=
  ⟨(columnAxis?_failsOnly c).mono fun _ he => he ▸ rfl,
    (rowAxis?_failsOnly c).mono fun _ he => he ▸ rfl⟩

theorem firstMember?_lacks_no_cell (tuple : Tuple) :
    FailsOnly (fun e => e.isMissingCell = false) tuple.firstMember? :=
  (firstMember?_failsOnly tuple).mono fun _ he => he ▸ rfl

theorem measureNames?_failsOnly (columns : List Tuple) :
    FailsOnly (fun e => e = .invalidResponse .noMembers) (measureNames? columns) :=
  FailsOnly.mapM fun tuple _ => (firstMember?_failsOnly tuple).map _

theorem measureNames?_lacks_no_cell (columns : List Tuple) :
    FailsOnly (fun e => e.isMissingCell = false) (measureNames? columns) :=
  (measureNames?_failsOnly columns).mono fun _ he => he ▸ rfl

theorem cellValues?_failsOnly (c : Cellset) (start count : Nat) :
    FailsOnly (fun e => ∃ index, e = .invalidResponse (.noCell index c.counts))
      (cellValues? c start count) := by
  apply FailsOnly.mapM
  intro index _
  rw [Cellset.cellValue?, Cellset.cell?]
  apply FailsOnly.map
  split
  · exact FailsOnly.ok _
  · exact FailsOnly.error ⟨_, rfl⟩

theorem checkTotals_failsOnly (includeTotals : Bool) (found : List Row) :
    FailsOnly (fun e => ∃ fault ∈ [.missingTotals, .unexpectedTotals, .multipleTotals],
      e = .invalidResponse fault) (checkTotals includeTotals found) := by
  unfold checkTotals
  split
  · split
    · exact FailsOnly.error (by simp)
    · exact FailsOnly.ok _
  · split
    · exact FailsOnly.ok _
    · exact FailsOnly.error (by simp)
  · exact FailsOnly.error (by simp)

theorem checkTotals_lacks_no_cell (includeTotals : Bool) (found : List Row) :
    FailsOnly (fun e => e.isMissingCell = false) (checkTotals includeTotals found) := by
  refine (checkTotals_failsOnly includeTotals found).mono ?_
  rintro _ ⟨fault, hfault, rfl⟩
  simp only [List.mem_cons, List.not_mem_nil, or_false] at hfault
  rcases hfault with rfl | rfl | rfl
  · rfl
  · rfl
  · rfl

/-- A table finds all its cells if there is one for every pair of a row and a column. -/
theorem tableRows?_lacks_no_cell {c : Cellset} (h : HasAllCells c)
    (includeTotals includeTotalCount : Bool) :
    FailsOnly (fun e => e.isMissingCell = false)
      (tableRows? c includeTotals includeTotalCount) := by
  rw [tableRows?]
  apply FailsOnly.bind (axes_lack_no_cell c).1
  intro columns hcolumns
  apply FailsOnly.bind (axes_lack_no_cell c).2
  intro rows hrows
  apply FailsOnly.bind (measureNames?_lacks_no_cell _)
  intro measures hmeasures
  -- Every row reads a block as wide as there are columns, and each column names a measure.
  have hcells : rows.tuples.length * measures.length ≤ c.cells.size := by
    rw [length_of_mapM hmeasures]
    exact h columns rows hcolumns hrows
  refine FailsOnly.bind (FailsOnly.of_eq_ok (run'_mapM_readRow?_eq_ok hcells)) fun entries _ => ?_
  exact FailsOnly.bind (checkTotals_lacks_no_cell _ _) fun _ _ => FailsOnly.ok _

/-! ### Charts under construction -/

/-- A value fails to be added for want of a place only. -/
theorem addValue?_failsOnly (name : String) (data : Std.TreeMap String SeriesGroup)
    (cell : String × Option Float) :
    FailsOnly (fun e => e.isUnprepared = true) (addValue? name data cell) := by
  rw [addValue?]
  split
  · exact FailsOnly.error rfl
  · split
    · exact FailsOnly.error rfl
    · exact FailsOnly.ok _

theorem addValues?_failsOnly (measures : List String) (name : String) (values : List (Option Float))
    (data : Std.TreeMap String SeriesGroup) :
    FailsOnly (fun e => e.isUnprepared = true) (addValues? measures name values data) :=
  FailsOnly.foldlM (fun cell _ data => addValue?_failsOnly name data cell) data

theorem addGaps?_failsOnly (measures names : List String)
    (data : Std.TreeMap String SeriesGroup) :
    FailsOnly (fun e => e.isUnprepared = true) (addGaps? measures names data) :=
  FailsOnly.foldlM (fun name _ data => addValues?_failsOnly measures name _ data) data

theorem turnTo?_failsOnly (measures names : List String) (x : Option Value) (p : Pivot) :
    FailsOnly (fun e => e.isUnprepared = true) (p.turnTo? measures names x) := by
  rw [Pivot.turnTo?]
  split
  · exact FailsOnly.bind (addGaps?_failsOnly _ _ _) fun _ _ => FailsOnly.ok _
  · exact FailsOnly.ok _

theorem put?_failsOnly (measures : List String) (name : String) (values : List (Option Float))
    (p : Pivot) : FailsOnly (fun e => e.isUnprepared = true) (p.put? measures name values) :=
  FailsOnly.bind (addValues?_failsOnly _ _ _ _) fun _ _ => FailsOnly.ok _

/-- A row fails to be added for want of members, of a place or of its cells. -/
theorem addRowAt?_failsOnly {P : Error → Prop} {c : Cellset} {measures names : List String}
    {row : Tuple × Nat} (hmembers : FailsOnly P row.1.firstMember?)
    (hplace : ∀ e : Error, e.isUnprepared = true → P e)
    (hcells : FailsOnly P (cellValues? c (row.2 * measures.length) measures.length)) (p : Pivot) :
    FailsOnly P (p.addRowAt? c measures names row) := by
  refine FailsOnly.bind hmembers fun member _ => ?_
  refine FailsOnly.bind ((turnTo?_failsOnly _ _ _ _).mono hplace) fun p _ => ?_
  refine FailsOnly.bind hcells fun values _ => ?_
  exact (put?_failsOnly _ _ _ _).mono hplace

/-- A chart fails for want of an axis, of members, of a place for a value or of cells. -/
theorem chart?_failsOnly {P : Error → Prop} {c : Cellset} (hcolumns : FailsOnly P c.columnAxis?)
    (hrows : FailsOnly P c.rowAxis?) (hmembers : ∀ tuple : Tuple, FailsOnly P tuple.firstMember?)
    (hplace : ∀ e : Error, e.isUnprepared = true → P e)
    (hcells : ∀ columns rows measures, c.columnAxis? = .ok columns → c.rowAxis? = .ok rows →
      measureNames? columns.tuples = .ok measures → ∀ row ∈ rows.tuples.zipIdx,
        FailsOnly P (cellValues? c (row.2 * measures.length) measures.length)) :
    FailsOnly P (chart? c) := by
  rw [chart?]
  refine FailsOnly.bind hcolumns fun columns hcolumns => ?_
  refine FailsOnly.bind hrows fun rows hrows => ?_
  refine FailsOnly.bind (FailsOnly.mapM fun tuple _ => (hmembers tuple).map _) fun xs _ => ?_
  refine FailsOnly.bind (FailsOnly.mapM fun tuple _ => (hmembers tuple).map _)
    fun measures hmeasures => ?_
  rw [run'_foldlM_addRow?]
  refine FailsOnly.bind (FailsOnly.foldlM (fun row hrow p => ?_) _) fun pivot _ => ?_
  · exact addRowAt?_failsOnly (hmembers row.1) hplace
      (hcells columns rows measures hcolumns hrows hmeasures row hrow) p
  · refine FailsOnly.bind ?_ fun data _ => FailsOnly.ok _
    split
    · exact FailsOnly.ok _
    · exact (addGaps?_failsOnly _ _ _).mono hplace

/-- A chart finds all its cells if there is one for every pair of a row and a column. -/
theorem chart?_lacks_no_cell {c : Cellset} (h : HasAllCells c) :
    FailsOnly (fun e => e.isMissingCell = false) (chart? c) := by
  refine chart?_failsOnly (axes_lack_no_cell c).1 (axes_lack_no_cell c).2
    firstMember?_lacks_no_cell (fun _ => Error.isMissingCell_of_isUnprepared) ?_
  intro columns rows measures hcolumns hrows hmeasures row hrow
  have hcells : rows.tuples.length * measures.length ≤ c.cells.size := by
    rw [length_of_mapM hmeasures]
    exact h columns rows hcolumns hrows
  exact FailsOnly.of_eq_ok (block_eq_ok hcells hrow)

/-- A dense cellset has a cell for every pair of a row and a column. -/
theorem hasAllCells_of_isDense {c : Cellset} (h : c.IsDense) : HasAllCells c := by
  intro columns rows hcolumns hrows
  obtain ⟨axes, cells⟩ := c
  match axes with
  | [] => cases hcolumns
  | [_] => cases hrows
  | [_, _] =>
    cases hcolumns
    cases hrows
    refine Nat.le_of_eq ?_
    rw [h.size_table columns rows rfl]
    exact Nat.mul_comm _ _
  | _ :: _ :: _ :: _ =>
    have hlen : _ ≤ 2 := h.axes_le
    simp only [List.length_cons] at hlen
    omega

/-- The check of a report on a dimension: no rows, or the expected number of cells. -/
theorem misfit_eq_false_iff {α : Type} (tuples : List α) (expected actual : Nat) :
    (!tuples.isEmpty && decide (expected ≠ actual)) = false ↔ tuples = [] ∨ expected = actual := by
  rw [Bool.and_eq_false_iff, Bool.not_eq_false', List.isEmpty_iff, decide_eq_false_iff_not,
    Decidable.not_not]

/-- The report on a dimension that has no rows, or cells for exactly its rows. -/
theorem dimensionRows?_eq_ok {c : Cellset} {rows : Axis} {includeTotalCount : Bool}
    (hrows : c.rowAxis? = .ok rows)
    (hfit : rows.tuples = [] ∨
      rows.tuples.length * (if includeTotalCount then 2 else 1) = c.cells.size) :
    dimensionRows? c includeTotalCount = .ok
      ⟨(blocksOf c rows (if includeTotalCount then 2 else 1)).map fun entry =>
          ⟨Row.addMembers ∅ entry.1.members, isSet entry.2[0]?.join⟩,
        if includeTotalCount then some (countOf ((blocksOf c rows 2).getLast?.bind
          fun entry => entry.2[1]?.join)) else none⟩ := by
  have hle : rows.tuples.length * (if includeTotalCount then 2 else 1) ≤ c.cells.size := by
    rcases hfit with hnil | heq
    · rw [hnil, List.length_nil, Nat.zero_mul]
      exact Nat.zero_le _
    · exact Nat.le_of_eq heq
  -- The check on the number of cells makes every block a part of them.
  have hblocks := run'_mapM_readRow?_eq_ok hle
  have hpass := (misfit_eq_false_iff rows.tuples _ c.cells.size).2 hfit
  refine (bind_of_eq_ok hrows).trans ?_
  simp only [hpass, Bool.false_eq_true, if_false]
  refine (bind_of_eq_ok hblocks).trans ?_
  cases includeTotalCount with
  | false => rfl
  | true => rfl

/-- The report on a dimension succeeds if it has no rows, or cells for exactly its rows. -/
theorem dimensionRows?_isOk {c : Cellset} {rows : Axis} {includeTotalCount : Bool}
    (hrows : c.rowAxis? = .ok rows)
    (hfit : rows.tuples = [] ∨
      rows.tuples.length * (if includeTotalCount then 2 else 1) = c.cells.size) :
    ∃ report, dimensionRows? c includeTotalCount = .ok report :=
  ⟨_, dimensionRows?_eq_ok hrows hfit⟩

/-- The report on a dimension whose rows do not fit the cells says so. -/
theorem dimensionRows?_eq_mismatch {c : Cellset} {rows : Axis} {includeTotalCount : Bool}
    (hrows : c.rowAxis? = .ok rows) (hne : rows.tuples ≠ [])
    (hfit : rows.tuples.length * (if includeTotalCount then 2 else 1) ≠ c.cells.size) :
    dimensionRows? c includeTotalCount = .error (.invalidResponse (.rowCellMismatch
      (rows.tuples.length * (if includeTotalCount then 2 else 1)) c.cells.size)) := by
  have hmisfit := mt (misfit_eq_false_iff rows.tuples
    (rows.tuples.length * (if includeTotalCount then 2 else 1)) c.cells.size).1
    (not_or.2 ⟨hne, hfit⟩)
  rw [Bool.not_eq_false] at hmisfit
  rw [dimensionRows?, hrows]
  simp only [bind, Except.bind, hmisfit, if_true]

/-- The report on a dimension fails for want of rows or on the number of cells. -/
theorem dimensionRows?_failsOnly (c : Cellset) (includeTotalCount : Bool) :
    FailsOnly (fun e => e = .invalidResponse (.noRowAxis c.counts) ∨
      ∃ expected, e = .invalidResponse (.rowCellMismatch expected c.cells.size))
      (dimensionRows? c includeTotalCount) := by
  cases hrows : c.rowAxis? with
  | error e =>
    have he : e = .invalidResponse (.noRowAxis c.counts) := rowAxis?_failsOnly c e hrows
    rw [dimensionRows?, hrows]
    exact FailsOnly.error (.inl he)
  | ok rows =>
    by_cases hfit : rows.tuples = [] ∨
        rows.tuples.length * (if includeTotalCount then 2 else 1) = c.cells.size
    · obtain ⟨report, hreport⟩ := dimensionRows?_isOk hrows hfit
      exact FailsOnly.of_eq_ok hreport
    · rw [not_or] at hfit
      rw [dimensionRows?_eq_mismatch hrows hfit.1 hfit.2]
      exact FailsOnly.error (.inr ⟨_, rfl⟩)

/-- A report on a dimension lacks no cell: the number of cells is checked before. -/
theorem dimensionRows?_lacks_no_cell (c : Cellset) (includeTotalCount : Bool) :
    FailsOnly (fun e => e.isMissingCell = false) (dimensionRows? c includeTotalCount) := by
  refine (dimensionRows?_failsOnly c includeTotalCount).mono ?_
  rintro _ (rfl | ⟨expected, rfl⟩)
  · rfl
  · rfl

/-- The report on a dimension fails on the number of cells exactly if its rows do not fit. -/
theorem dimensionRows?_isCellMismatch_iff (c : Cellset) (includeTotalCount : Bool) :
    (∃ e, dimensionRows? c includeTotalCount = .error e ∧ e.isCellMismatch = true) ↔
      ∃ rows, c.rowAxis? = .ok rows ∧ rows.tuples ≠ [] ∧
        rows.tuples.length * (if includeTotalCount then 2 else 1) ≠ c.cells.size := by
  constructor
  · rintro ⟨e, herror, he⟩
    cases hrows : c.rowAxis? with
    | error e' =>
      have hcause := rowAxis?_failsOnly c e' hrows
      unfold dimensionRows? at herror
      rw [hrows] at herror
      cases herror
      rw [hcause] at he
      cases he
    | ok rows =>
      refine ⟨rows, rfl, ?_, ?_⟩
      · intro hnil
        obtain ⟨report, hreport⟩ := dimensionRows?_isOk hrows (.inl hnil)
        rw [hreport] at herror
        cases herror
      · intro hfit
        obtain ⟨report, hreport⟩ := dimensionRows?_isOk hrows (.inr hfit)
        rw [hreport] at herror
        cases herror
  · rintro ⟨rows, hrows, hne, hfit⟩
    exact ⟨_, dimensionRows?_eq_mismatch hrows hne hfit, rfl⟩

/-- In a dense cellset the rows fit the cells exactly if their width is that of the columns. -/
theorem rows_misfit_iff_of_isDense {c : Cellset} (h : c.IsDense) (width : Nat) :
    (∃ rows, c.rowAxis? = .ok rows ∧ rows.tuples ≠ [] ∧
        rows.tuples.length * width ≠ c.cells.size) ↔
      ∃ columns rows, c.axes = [columns, rows] ∧ rows.tuples ≠ [] ∧
        columns.tuples.length ≠ width := by
  have hfit : ∀ columns rows, c.axes = [columns, rows] → rows.tuples ≠ [] →
      (rows.tuples.length * width ≠ c.cells.size ↔ columns.tuples.length ≠ width) := by
    intro columns rows haxes hne
    have hpos : 0 < rows.tuples.length := List.length_pos_iff.2 hne
    rw [h.size_table columns rows haxes, Nat.mul_comm columns.tuples.length,
      Ne, Nat.mul_right_inj (Nat.ne_of_gt hpos)]
    exact ⟨Ne.symm, Ne.symm⟩
  constructor
  · rintro ⟨rows, hrows, hne, hmis⟩
    obtain ⟨columns, haxes⟩ : ∃ columns, c.axes = [columns, rows] := by
      have hle := h.axes_le
      unfold Cellset.rowAxis? at hrows
      match haxes : c.axes with
      | [] => simp [haxes] at hrows
      | [_] => simp [haxes] at hrows
      | [columns, second] =>
        simp only [haxes, List.getElem?_cons_succ, List.getElem?_cons_zero] at hrows
        cases hrows
        exact ⟨columns, rfl⟩
      | _ :: _ :: _ :: _ => simp [haxes] at hle
    exact ⟨columns, rows, haxes, hne, (hfit columns rows haxes hne).1 hmis⟩
  · rintro ⟨columns, rows, haxes, hne, hmis⟩
    refine ⟨rows, ?_, hne, (hfit columns rows haxes hne).2 hmis⟩
    simp [Cellset.rowAxis?, haxes]

/-- **A decoded cellset is dense, and no report on it lacks a cell.** The report on a dimension
fails on the number of cells exactly if there are rows and the columns are not those it asks for. -/
theorem decoded_dense_and_indexable {root : Xml.Node} {c : Cellset}
    (h : Cellset.ofElement? root = .ok c) :
    c.IsDense ∧
    (∀ includeTotals includeTotalCount, FailsOnly (fun e => e.isMissingCell = false)
      (tableRows? c includeTotals includeTotalCount)) ∧
    FailsOnly (fun e => e.isMissingCell = false) (chart? c) ∧
    ∀ includeTotalCount,
      FailsOnly (fun e => e.isMissingCell = false) (dimensionRows? c includeTotalCount) ∧
      ((∃ e, dimensionRows? c includeTotalCount = .error e ∧ e.isCellMismatch = true) ↔
        ∃ columns rows, c.axes = [columns, rows] ∧ rows.tuples ≠ [] ∧
          columns.tuples.length ≠ if includeTotalCount then 2 else 1) := by
  have hdense : c.IsDense := Cellset.isDense_of_ofElement? h
  have hall : HasAllCells c := hasAllCells_of_isDense hdense
  refine ⟨hdense, tableRows?_lacks_no_cell hall, chart?_lacks_no_cell hall, ?_⟩
  intro includeTotalCount
  refine ⟨dimensionRows?_lacks_no_cell c includeTotalCount, ?_⟩
  rw [dimensionRows?_isCellMismatch_iff]
  exact rows_misfit_iff_of_isDense hdense _

/-- An element in no namespace. -/
private def plainElement (name : String) (attributes : List (String × String))
    (children : List Xml.Node) : Xml.Node :=
  .element ⟨none, name⟩ (attributes.map fun a => ⟨⟨none, a.1⟩, a.2⟩) children

/-- An axis with one member of level 1 in each tuple. -/
private def axisElement (name : String) (members : List String) : Xml.Node :=
  plainElement "Axis" [("name", name)] [plainElement "Tuples" [] (members.map fun member =>
    plainElement "Tuple" [] [plainElement "Member" [("Hierarchy", member)]
      [plainElement "UName" [] [.text member], plainElement "LNum" [] [.text "1"]]])]

/-- Two columns and two rows of which the first and the last cell are left out. -/
private def sparseElement : Xml.Node :=
  plainElement "root" []
    [plainElement "Axes" []
      [axisElement "Axis0" ["[Measures].[Sales]", "[Measures].[Cost]"],
        axisElement "Axis1" ["[Geo].[US]", "[Geo].[CA]"], axisElement "SlicerAxis" []],
      plainElement "CellData" []
        [plainElement "Cell" [("CellOrdinal", "1")] [plainElement "Value" [] [.text "a"]],
          plainElement "Cell" [] [plainElement "Value" [] [.text "b"]]]]

/-- Gaps before and behind the cells of a reply are filled up. -/
theorem sparse_dense_and_indexable :
    ∃ c, Cellset.ofElement? sparseElement = .ok c ∧ c.cells.size = 4 ∧ c.IsDense ∧
      (∀ includeTotals includeTotalCount, FailsOnly (fun e => e.isMissingCell = false)
        (tableRows? c includeTotals includeTotalCount)) ∧
      FailsOnly (fun e => e.isMissingCell = false) (chart? c) ∧
      ∀ includeTotalCount,
        FailsOnly (fun e => e.isMissingCell = false) (dimensionRows? c includeTotalCount) ∧
        ((∃ e, dimensionRows? c includeTotalCount = .error e ∧ e.isCellMismatch = true) ↔
          ∃ columns rows, c.axes = [columns, rows] ∧ rows.tuples ≠ [] ∧
            columns.tuples.length ≠ if includeTotalCount then 2 else 1) :=
  ⟨_, rfl, rfl, @decoded_dense_and_indexable sparseElement _ rfl⟩

end Report

end CubeQuery
