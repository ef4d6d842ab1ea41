import CubeQuery.Proofs.Report.RowCount
import CubeQuery.Proofs.Report.RowLevels
import Mathlib.Data.List.Forall2

set_option autoImplicit false

/-!
# Tables and their replies

A table reads a reply row by row. A row tuple whose smallest level number is 0 gives the totals, any
other one a row; both map every measure to the cell under its last column, the count on columns
apart, and every level to its member, which wins over a measure of the same name.

Main statement: a table is read exactly from the replies that have both axes, a measure on every
column, a cell for every pair of a row and a column, and the totals that are asked for; and it has
what the reply says (`tableRows?_reads_reply`).
-/

namespace CubeQuery.Report

open Cellset (Member Tuple Axis)
open Mdx (CalculatedMember)

/-! ## What a reply says -/

/-- The smallest level number of a tuple's members. -/
def lowestLevel? (tuple : Tuple) : Option UInt32 :=
  (tuple.members.map (·.levelNumber)).min?

/-- The names of the measures on columns, those of the first members. -/
def columnNames (columns : Axis) : List String :=
  columns.tuples.filterMap fun tuple => tuple.members.head?.map (·.level.name)

/-- The last of the columns with a name. -/
def IsLastColumn (names : List String) (name : String) (j : Nat) : Prop :=
  names[j]? = some name ∧ ∀ k, names[k]? = some name → k ≤ j

theorem isLastColumn_iff (names : List String) (name : String) (j : Nat) :
    IsLastColumn names name j ↔
      names[j]? = some name ∧ ∀ k < names.length, names[k]? = some name → k ≤ j := by
  refine and_congr_right fun _ => ⟨fun h k _ => h k, fun h k hk => ?_⟩
  exact h k (List.getElem?_eq_some_iff.1 hk).1 hk

instance (names : List String) (name : String) (j : Nat) : Decidable (IsLastColumn names name j) :=
  decidable_of_iff _ (isLastColumn_iff names name j).symm

/-- The row of the tuple with the number `r`: the values of its members, of the cells under all
measures that are neither levels of members nor the count that is asked for, and nothing else. -/
structure IsRowOf (c : Cellset) (names : List String) (includeTotalCount : Bool) (tuple : Tuple)
    (r : Nat) (row : Row) : Prop where
  of_member : ∀ name member,
    (tuple.members.filter fun member => member.level.name == name).getLast? = some member →
    row[name]? = some member.value
  of_measure : ∀ name j, IsLastColumn names name j → isCount includeTotalCount name = false →
    (∀ member ∈ tuple.members, member.level.name ≠ name) →
    row[name]? = some (c.cells[r * names.length + j]?.bind (·.value))
  of_none : ∀ name, (∀ member ∈ tuple.members, member.level.name ≠ name) →
    (name ∉ names ∨ isCount includeTotalCount name = true) → row[name]? = none

/-- A reply that a table can be read from. -/
structure IsReadable (c : Cellset) (columns rows : Axis) (includeTotals : Bool) : Prop where
  columnAxis : c.axes[0]? = some columns
  rowAxis : c.axes[1]? = some rows
  measures : ∀ tuple ∈ columns.tuples, tuple.members ≠ []
  cells : rows.tuples.length * columns.tuples.length ≤ c.cells.size
  totals : rows.tuples = [] ∨
    (rows.tuples.countP fun tuple => lowestLevel? tuple = some 0) = if includeTotals then 1 else 0

/-- A table that has what a reply says. -/
structure Table.Reads (report : Table Row) (c : Cellset) (columns rows : Axis)
    (includeTotals includeTotalCount : Bool) : Prop where
  others : List.Forall₂
    (fun entry row => IsRowOf c (columnNames columns) includeTotalCount entry.1 entry.2 row)
    (rows.tuples.zipIdx.filter fun entry => lowestLevel? entry.1 ≠ some 0) report.rows
  totals : rows.tuples ≠ [] → List.Forall₂
    (fun entry row => IsRowOf c (columnNames columns) includeTotalCount entry.1 entry.2 row)
    (rows.tuples.zipIdx.filter fun entry => lowestLevel? entry.1 = some 0) report.totals.toList
  noTotals : includeTotals = false → report.totals = none
  emptyTotals : rows.tuples = [] → includeTotals = true → ∃ row, report.totals = some row ∧
    ∀ name, row[name]? =
      if name ∈ columnNames columns ∧ isCount includeTotalCount name = false then
        some (some (.number 0)) else none
  noCount : includeTotalCount = false → report.totalCount = none
  count : includeTotalCount = true → rows.tuples ≠ [] → ∀ j,
    IsLastColumn (columnNames columns) CalculatedMember.totalCount.text j →
    ∃ count, report.totalCount = some count ∧ StandsFor
      (c.cells[(rows.tuples.length - 1) * (columnNames columns).length + j]?.bind (·.value)) count
  zeroCount : includeTotalCount = true →
    rows.tuples = [] ∨ CalculatedMember.totalCount.text ∉ columnNames columns →
    report.totalCount = some 0

/-- The smallest level number of a tuple is 0 if a member has it. -/
theorem lowestLevel?_eq_zero_iff (tuple : Tuple) :
    lowestLevel? tuple = some 0 ↔ ∃ member ∈ tuple.members, member.levelNumber = 0 := by
  rw [lowestLevel?, List.min?_eq_some_iff, List.mem_map]
  constructor
  · rintro ⟨hmember, -⟩
    exact hmember
  · intro hmember
    exact ⟨hmember, fun _ _ => UInt32.zero_le⟩

theorem isTotals_eq_decide (tuple : Tuple) :
    isTotals tuple = decide (lowestLevel? tuple = some 0) := by
  rw [Bool.eq_iff_iff, decide_eq_true_iff, lowestLevel?_eq_zero_iff, isTotals, List.any_eq_true]
  simp only [beq_iff_eq]

theorem columnAxis?_eq_ok_iff {c : Cellset} {columns : Axis} :
    c.columnAxis? = .ok columns ↔ c.axes[0]? = some columns := by
  rw [Cellset.columnAxis?]
  cases c.axes[0]? <;> simp

theorem rowAxis?_eq_ok_iff {c : Cellset} {rows : Axis} :
    c.rowAxis? = .ok rows ↔ c.axes[1]? = some rows := by
  rw [Cellset.rowAxis?]
  cases c.axes[1]? <;> simp

/-- Columns have measures exactly if none of them is empty. -/
theorem measureNames?_eq_ok_iff {columns : Axis} {names : List String} :
    measureNames? columns.tuples = .ok names ↔
      (∀ tuple ∈ columns.tuples, tuple.members ≠ []) ∧ names = columnNames columns := by
  rw [measureNames?, columnNames]
  induction columns.tuples generalizing names with
  | nil => simp [pure, Except.pure, eq_comm]
  | cons tuple rest ih =>
    rw [List.mapM_cons, List.forall_mem_cons, List.filterMap_cons, Tuple.firstMember?]
    cases hmembers : tuple.members with
    | nil => simp [Except.map, bind, Except.bind]
    | cons first others =>
      simp only [List.head?_cons, Except.map, Option.map_some]
      constructor
      · intro h
        obtain ⟨_, hfirst, h⟩ := steps_of_bind_eq_ok h
        obtain ⟨found, hrest, h⟩ := steps_of_bind_eq_ok h
        cases hfirst
        cases h
        obtain ⟨hne, rfl⟩ := ih.1 hrest
        exact ⟨⟨List.cons_ne_nil first others, hne⟩, rfl⟩
      · rintro ⟨⟨-, hne⟩, rfl⟩
        exact (bind_of_eq_ok rfl).trans (bind_of_eq_ok (ih.2 ⟨hne, rfl⟩))

theorem length_columnNames {columns : Axis} (h : ∀ tuple ∈ columns.tuples, tuple.members ≠ []) :
    (columnNames columns).length = columns.tuples.length :=
  length_of_mapM (measureNames?_eq_ok_iff.2 ⟨h, rfl⟩)

/-! ## Rows -/

/-- The last element with a property is found last among those with the property. -/
theorem getLast?_filter_eq_some {α : Type} {p : α → Bool} {xs : List α} {x : α} {j : Nat}
    (hx : xs[j]? = some x) (hp : p x = true)
    (hlast : ∀ k y, xs[k]? = some y → p y = true → k ≤ j) :
    (xs.filter p).getLast? = some x := by
  have hsplit : xs = xs.take j ++ x :: xs.drop (j + 1) := by
    obtain ⟨hj, hget⟩ := List.getElem?_eq_some_iff.1 hx
    rw [← hget, List.getElem_cons_drop, List.take_append_drop]
  have hrest : (xs.drop (j + 1)).filter p = [] := by
    rw [List.filter_eq_nil_iff]
    intro y hy hpy
    obtain ⟨i, hi⟩ := List.mem_iff_getElem?.1 hy
    rw [List.getElem?_drop] at hi
    have hle := hlast _ y hi hpy
    omega
  rw [hsplit, List.filter_append, List.filter_cons_of_pos hp, hrest, List.getLast?_append]
  rfl

/-- What a row has under a name: the last member of that level, or else the last cell under it. -/
theorem getElem?_rowOf (includeTotalCount : Bool) (tuple : Tuple)
    (cells : List (String × Option Value)) (name : String) :
    (rowOf includeTotalCount tuple cells)[name]? =
      ((tuple.members.filter fun member => member.level.name == name).getLast?.map (·.value)).or
        (if isCount includeTotalCount name then none
          else (cells.filter fun cell => cell.1 == name).getLast?.map Prod.snd) := by
  rw [rowOf, Row.addMembers,
    getElem?_foldl_insert (fun member : Member => member.level.name) (fun member => member.value),
    getElem?_foldl_insert (fun cell : String × Option Value => cell.1) (fun cell => cell.2),
    Std.TreeMap.getElem?_emptyc, Option.or_none, List.filter_filter]
  congr 1
  -- A cell under the name is left out exactly if the name is that of the count.
  have hsame : (cells.filter fun cell => cell.1 == name && !isCount includeTotalCount cell.1) =
      cells.filter fun cell => cell.1 == name && !isCount includeTotalCount name := by
    apply List.filter_congr
    intro cell _
    by_cases hname : cell.1 = name
    · rw [hname]
    · rw [beq_eq_false_iff_ne.2 hname, Bool.false_and, Bool.false_and]
  rw [hsame]
  cases isCount includeTotalCount name with
  | false => simp only [Bool.not_false, Bool.and_true, Bool.false_eq_true, if_false]
  | true => simp only [Bool.not_true, Bool.and_false, List.filter_false, List.getLast?_nil,
      Option.map_none, if_true]

theorem getLast?_filter_level_eq_none_iff {tuple : Tuple} {name : String} :
    (tuple.members.filter fun member => member.level.name == name).getLast? = none ↔
      ∀ member ∈ tuple.members, member.level.name ≠ name := by
  simp

/-- The cell under the last column of a name is the last one under the name. -/
theorem getLast?_zip_block {c : Cellset} {names : List String} {name : String} {start j : Nat}
    (hj : IsLastColumn names name j) :
    ((names.zip (block c start names.length)).filter fun cell => cell.1 == name).getLast? =
      some (name, c.cells[start + j]?.bind (·.value)) := by
  have hlt : j < names.length := (List.getElem?_eq_some_iff.1 hj.1).1
  apply getLast?_filter_eq_some
  · exact List.getElem?_zip_eq_some.2 ⟨hj.1, getElem?_block c start hlt⟩
  · exact beq_self_eq_true name
  · intro k cell hcell hname
    have hk : names[k]? = some cell.1 := (List.getElem?_zip_eq_some.1 hcell).1
    rw [beq_iff_eq.1 hname] at hk
    exact hj.2 k hk

/-- There is no cell under a name that no column has. -/
theorem filter_zip_eq_nil {names : List String} {name : String} (h : name ∉ names)
    (values : List (Option Value)) :
    ((names.zip values).filter fun cell => cell.1 == name) = [] := by
  rw [List.filter_eq_nil_iff]
  intro cell hcell hname
  rw [← beq_iff_eq.1 hname] at h
  exact h (List.of_mem_zip hcell).1

theorem isRowOf_rowOf (c : Cellset) (names : List String) (includeTotalCount : Bool)
    (tuple : Tuple) (r : Nat) :
    IsRowOf c names includeTotalCount tuple r (rowOf includeTotalCount tuple
      (names.zip (block c (r * names.length) names.length))) where
  of_member := by
    intro name member hmember
    rw [getElem?_rowOf, hmember]
    rfl
  of_measure := by
    intro name j hj hcount hno
    rw [getElem?_rowOf, getLast?_filter_level_eq_none_iff.2 hno, hcount, getLast?_zip_block hj]
    rfl
  of_none := by
    intro name hno hout
    rw [getElem?_rowOf, getLast?_filter_level_eq_none_iff.2 hno]
    rcases hout with hnot | hcount
    · rw [filter_zip_eq_nil hnot]
      split <;> rfl
    · rw [hcount]
      rfl

/-- The totals of a table without rows are zero under each measure that is not the count. -/
theorem getElem?_zeroTotals (includeTotalCount : Bool) (names : List String) (name : String) :
    (zeroTotals includeTotalCount names)[name]? =
      if name ∈ names ∧ isCount includeTotalCount name = false then some (some (.number 0))
      else none := by
  rw [zeroTotals, getElem?_foldl_insert (fun measure : String => measure)
    (fun _ => some (Value.number 0)), Std.TreeMap.getElem?_emptyc, Option.or_none]
  split
  · rename_i hname
    obtain ⟨hmem, hcount⟩ := hname
    have hkept : name ∈ (names.filter fun measure => !isCount includeTotalCount measure).filter
        fun measure => measure == name := by
      rw [List.mem_filter, List.mem_filter, hcount]
      exact ⟨⟨hmem, rfl⟩, beq_self_eq_true name⟩
    rw [List.getLast?_eq_some_getLast (List.ne_nil_of_mem hkept)]
    rfl
  · rename_i hname
    have hnil : (names.filter fun measure => !isCount includeTotalCount measure).filter
        (fun measure => measure == name) = [] := by
      rw [List.filter_eq_nil_iff]
      intro measure hmeasure hsame
      obtain ⟨hmem, hcount⟩ := List.mem_filter.1 hmeasure
      rw [beq_iff_eq.1 hsame] at hmem hcount
      rw [Bool.not_eq_true'] at hcount
      exact hname ⟨hmem, hcount⟩
    rw [hnil]
    rfl

/-! ## Cells -/

theorem lt_size_of_cellValue?_eq_ok {c : Cellset} {index : Nat} {value : Option Value}
    (h : c.cellValue? index = .ok value) : index < c.cells.size := by
  by_contra hge
  rw [Cellset.cellValue?, Cellset.cell?, Array.getElem?_eq_none (Nat.le_of_not_lt hge)] at h
  cases h

/-- The blocks of all rows are only found if there are cells for all of them. -/
theorem cells_le_of_blocks {α : Type} {c : Cellset} {xs : List α} {width : Nat}
    (h : ∀ entry ∈ xs.zipIdx, ∃ values, cellValues? c (entry.2 * width) width = .ok values) :
    xs.length * width ≤ c.cells.size := by
  rcases Nat.eq_zero_or_pos width with rfl | hwidth
  · rw [Nat.mul_zero]
    exact Nat.zero_le _
  rcases Nat.eq_zero_or_pos xs.length with hnone | hrows
  · rw [hnone, Nat.zero_mul]
    exact Nat.zero_le _
  -- The cells of the last row end with its last cell.
  have hlt : xs.length - 1 < xs.length := Nat.sub_one_lt_of_lt hrows
  have hlast : (xs[xs.length - 1], xs.length - 1) ∈ xs.zipIdx := by
    rw [List.mem_zipIdx_iff_getElem?]
    exact List.getElem?_eq_getElem hlt
  obtain ⟨values, hvalues⟩ := h _ hlast
  have hmem : (xs.length - 1) * width + (width - 1) ∈
      List.range' ((xs.length - 1) * width) width := by
    rw [List.mem_range'_1]
    omega
  obtain ⟨value, hvalue⟩ := isOk_of_mapM hvalues hmem
  have hend := lt_size_of_cellValue?_eq_ok hvalue
  have hsplit : xs.length * width = (xs.length - 1) * width + width := by
    rw [← Nat.succ_mul, Nat.succ_eq_add_one, Nat.sub_add_cancel hrows]
  omega

/-! ## Totals -/

/-- The totals are those that were found if they are as many as are asked for. -/
theorem checkTotals_eq_ok_iff {includeTotals : Bool} {found : List Row} {totals : Option Row} :
    checkTotals includeTotals found = .ok totals ↔
      found = totals.toList ∧ totals.isSome = includeTotals := by
  match found with
  | [] => cases includeTotals <;> cases totals <;> simp [checkTotals]
  | [_] => cases includeTotals <;> cases totals <;> simp [checkTotals]
  | _ :: _ :: _ => cases totals <;> simp [checkTotals]

theorem checkTotals_isOk_iff {includeTotals : Bool} {found : List Row} :
    (∃ totals, checkTotals includeTotals found = .ok totals) ↔
      found.length = if includeTotals then 1 else 0 := by
  match found with
  | [] => cases includeTotals <;> simp [checkTotals]
  | [_] => cases includeTotals <;> simp [checkTotals]
  | _ :: _ :: _ => cases includeTotals <;> simp [checkTotals]

/-! ## Reports -/

section Report

variable (c : Cellset) (rows : Axis) (names : List String)
variable (includeTotals includeTotalCount : Bool)

/-- The row of a numbered tuple. -/
def rowAt (entry : Tuple × Nat) : Row :=
  rowOf includeTotalCount entry.1 (names.zip (block c (entry.2 * names.length) names.length))

/-- The totals that are found in a reply. -/
def foundTotals : List Row :=
  if rows.tuples.isEmpty && includeTotals then [zeroTotals includeTotalCount names]
  else (rows.tuples.zipIdx.filter fun entry => isTotals entry.1).map
    (rowAt c names includeTotalCount)

/-- The value of the last count in the last row. -/
def lastCount : Option Value :=
  (rows.tuples.zipIdx.getLast?.bind fun entry =>
    ((names.zip (block c (entry.2 * names.length) names.length)).filter
      fun cell => isCount includeTotalCount cell.1).getLast?).bind Prod.snd

/-- The table of a reply with the given totals. -/
def tableOf (totals : Option Row) : Table Row where
  rows := (rows.tuples.zipIdx.filter fun entry => !isTotals entry.1).map
    (rowAt c names includeTotalCount)
  totals := totals
  totalCount :=
    if includeTotalCount then some (countOf (lastCount c rows names includeTotalCount)) else none

end Report

section Readable

variable {c : Cellset} {columns rows : Axis} {includeTotals includeTotalCount : Bool}

/-- With all cells at hand, a table depends on the totals that are found. -/
theorem tableRows?_eq (hcolumns : c.axes[0]? = some columns) (hrows : c.axes[1]? = some rows)
    (hmeasures : ∀ tuple ∈ columns.tuples, tuple.members ≠ [])
    (hcells : rows.tuples.length * columns.tuples.length ≤ c.cells.size) :
    tableRows? c includeTotals includeTotalCount = (do
      let totals ← checkTotals includeTotals
        (foundTotals c rows (columnNames columns) includeTotals includeTotalCount)
      .ok (tableOf c rows (columnNames columns) includeTotalCount totals)) := by
  have hnames : measureNames? columns.tuples = .ok (columnNames columns) :=
    measureNames?_eq_ok_iff.2 ⟨hmeasures, rfl⟩
  rw [← length_columnNames hmeasures] at hcells
  generalize columnNames columns = names at hnames hcells
  refine (bind_of_eq_ok (columnAxis?_eq_ok_iff.2 hcolumns)).trans ?_
  refine (bind_of_eq_ok (rowAxis?_eq_ok_iff.2 hrows)).trans ?_
  refine (bind_of_eq_ok hnames).trans ?_
  refine (bind_of_eq_ok (run'_mapM_readRow?_eq_ok hcells)).trans ?_
  rw [List.partition_eq_filter_filter]
  simp only [blocksOf, List.filter_map, List.map_map, List.getLast?_map, Option.bind_map]
  rfl

/-! ## Totals among the rows -/

/-- In a reply with rows as many totals are found as tuples have a member at level 0. -/
theorem length_foundTotals (names : List String) (hne : rows.tuples ≠ []) :
    (foundTotals c rows names includeTotals includeTotalCount).length =
      rows.tuples.countP fun tuple => lowestLevel? tuple = some 0 := by
  have hzip := List.countP_map (p := isTotals) (f := Prod.fst) (l := rows.tuples.zipIdx)
  rw [List.zipIdx_map_fst] at hzip
  rw [foundTotals, List.isEmpty_eq_false_iff.2 hne, Bool.false_and, if_neg Bool.false_ne_true,
    List.length_map, ← List.countP_eq_length_filter, ← funext isTotals_eq_decide, hzip]
  rfl

/-- The totals that are found are as many as are asked for if the reply has that many, or no rows
at all. -/
theorem length_foundTotals_eq_iff (names : List String) :
    (foundTotals c rows names includeTotals includeTotalCount).length =
        (if includeTotals then 1 else 0) ↔
      rows.tuples = [] ∨ (rows.tuples.countP fun tuple => lowestLevel? tuple = some 0) =
        if includeTotals then 1 else 0 := by
  by_cases hnil : rows.tuples = []
  · rw [foundTotals, hnil]
    cases includeTotals with
    | false => exact iff_of_true rfl (.inl rfl)
    | true => exact iff_of_true rfl (.inl rfl)
  · rw [length_foundTotals names hnil, or_iff_right hnil]

/-! ## The count -/

/-- The count of a reply with rows is under the last column of the count in the last row. -/
theorem lastCount_eq {names : List String} {j : Nat} (hne : rows.tuples ≠ [])
    (hj : IsLastColumn names CalculatedMember.totalCount.text j) :
    lastCount c rows names true =
      c.cells[(rows.tuples.length - 1) * names.length + j]?.bind (·.value) := by
  rw [lastCount, List.getLast?_eq_getElem?, List.length_zipIdx, List.getElem?_zipIdx,
    List.getElem?_eq_getElem (Nat.sub_one_lt_of_lt (List.length_pos_iff.2 hne)), Option.map_some,
    Option.bind_some, Nat.zero_add]
  simp only [isCount, Bool.true_and]
  rw [getLast?_zip_block hj]
  rfl

/-- Without rows, or without a column for it, there is no count. -/
theorem lastCount_eq_none {names : List String}
    (h : rows.tuples = [] ∨ CalculatedMember.totalCount.text ∉ names) :
    lastCount c rows names true = none := by
  rw [lastCount]
  rcases h with hnil | hno
  · rw [hnil]
    rfl
  · simp only [isCount, Bool.true_and, filter_zip_eq_nil hno]
    cases rows.tuples.zipIdx.getLast? <;> rfl

/-! ## Readable replies -/

/-- A reply that a table is read from is readable. -/
theorem isReadable_of_eq_ok {report : Table Row}
    (h : tableRows? c includeTotals includeTotalCount = .ok report) :
    ∃ columns rows, IsReadable c columns rows includeTotals := by
  obtain ⟨columns, hcolumns, hsteps⟩ := steps_of_bind_eq_ok h
  obtain ⟨rows, hrows, hsteps⟩ := steps_of_bind_eq_ok hsteps
  obtain ⟨names, hnames, hsteps⟩ := steps_of_bind_eq_ok hsteps
  obtain ⟨entries, hentries, -⟩ := steps_of_bind_eq_ok hsteps
  rw [run'_mapM_readRow?] at hentries
  have hcells : rows.tuples.length * names.length ≤ c.cells.size := by
    apply cells_le_of_blocks
    intro entry hentry
    obtain ⟨_, hread⟩ := isOk_of_mapM hentries hentry
    obtain ⟨values, hvalues, -⟩ := steps_of_bind_eq_ok hread
    exact ⟨values, hvalues⟩
  obtain ⟨hmeasures, rfl⟩ := measureNames?_eq_ok_iff.1 hnames
  rw [length_columnNames hmeasures] at hcells
  rw [columnAxis?_eq_ok_iff] at hcolumns
  rw [rowAxis?_eq_ok_iff] at hrows
  rw [tableRows?_eq hcolumns hrows hmeasures hcells] at h
  obtain ⟨totals, htotals, -⟩ := steps_of_bind_eq_ok h
  exact ⟨columns, rows, hcolumns, hrows, hmeasures, hcells,
    (length_foundTotals_eq_iff _).1 (checkTotals_isOk_iff.1 ⟨totals, htotals⟩)⟩

/-- The rows of numbered tuples are those that the reply says. -/
theorem forall₂_isRowOf_rowAt (c : Cellset) (names : List String) (includeTotalCount : Bool)
    (entries : List (Tuple × Nat)) :
    List.Forall₂ (fun entry row => IsRowOf c names includeTotalCount entry.1 entry.2 row) entries
      (entries.map (rowAt c names includeTotalCount)) := by
  rw [List.forall₂_map_right_iff, List.forall₂_same]
  intro entry _
  exact isRowOf_rowOf c names includeTotalCount entry.1 entry.2

/-- A table whose totals are those found has what the reply says. -/
theorem reads_of_checkTotals {totals : Option Row}
    (htotals : checkTotals includeTotals
      (foundTotals c rows (columnNames columns) includeTotals includeTotalCount) = .ok totals) :
    (tableOf c rows (columnNames columns) includeTotalCount totals).Reads c columns rows
      includeTotals includeTotalCount := by
  obtain ⟨hfound, hsome⟩ := checkTotals_eq_ok_iff.1 htotals
  constructor
  case others =>
    simp only [tableOf, isTotals_eq_decide, ← decide_not]
    exact forall₂_isRowOf_rowAt c _ includeTotalCount _
  case totals =>
    intro hne
    rw [tableOf, ← hfound, foundTotals, List.isEmpty_eq_false_iff.2 hne, Bool.false_and,
      if_neg Bool.false_ne_true]
    simp only [isTotals_eq_decide]
    exact forall₂_isRowOf_rowAt c _ includeTotalCount _
  case noTotals =>
    rintro rfl
    exact Option.isNone_iff_eq_none.1 (Option.isSome_eq_false_iff.1 hsome)
  case emptyTotals =>
    rintro hnil rfl
    rw [foundTotals, hnil, List.isEmpty_nil, Bool.and_self, if_pos rfl] at hfound
    obtain ⟨row, rfl⟩ := Option.isSome_iff_exists.1 hsome
    cases hfound
    exact ⟨_, rfl, getElem?_zeroTotals _ _⟩
  case noCount =>
    rintro rfl
    rfl
  case count =>
    rintro rfl hne j hj
    rw [tableOf, if_pos rfl, lastCount_eq hne hj]
    exact ⟨_, rfl, standsFor_countOf _⟩
  case zeroCount =>
    rintro rfl hnone
    rw [tableOf, if_pos rfl, lastCount_eq_none hnone]
    rfl

/-- A readable reply gives a table, which has what the reply says. -/
theorem exists_reads_of_isReadable (h : IsReadable c columns rows includeTotals) :
    ∃ report, tableRows? c includeTotals includeTotalCount = .ok report ∧
      report.Reads c columns rows includeTotals includeTotalCount := by
  obtain ⟨totals, htotals⟩ : ∃ totals, checkTotals includeTotals
      (foundTotals c rows (columnNames columns) includeTotals includeTotalCount) = .ok totals :=
    checkTotals_isOk_iff.2 ((length_foundTotals_eq_iff (columnNames columns)).2 h.totals)
  refine ⟨_, ?_, reads_of_checkTotals htotals⟩
  rw [tableRows?_eq h.columnAxis h.rowAxis h.measures h.cells]
  exact bind_of_eq_ok htotals

end Readable

/-- **A table is read exactly from readable replies, and has what they say.** Both axes must be
there, a measure on every column, a cell for every pair of a row and a column, and, unless there
are no rows, the totals exactly once if they are asked for and not at all otherwise. -/
theorem tableRows?_reads_reply (c : Cellset) (includeTotals includeTotalCount : Bool) :
    ((∃ report, tableRows? c includeTotals includeTotalCount = .ok report) ↔
      ∃ columns rows, IsReadable c columns rows includeTotals) ∧
    ∀ columns rows report, IsReadable c columns rows includeTotals →
      tableRows? c includeTotals includeTotalCount = .ok report →
      report.Reads c columns rows includeTotals includeTotalCount := by
  refine ⟨⟨?_, ?_⟩, ?_⟩
  · rintro ⟨report, hreport⟩
    exact isReadable_of_eq_ok hreport
  · rintro ⟨columns, rows, hreadable⟩
    obtain ⟨report, hreport, -⟩ := exists_reads_of_isReadable hreadable
    exact ⟨report, hreport⟩
  · intro columns rows report hreadable hreport
    obtain ⟨report', hreport', hreads⟩ := exists_reads_of_isReadable hreadable
    cases hreport.symm.trans hreport'
    exact hreads

/-- An axis with a measure on each of some columns. -/
private def measureAxis (names : List String) : Axis :=
  ⟨names.map fun name => ⟨[⟨true, ⟨name⟩, 0, none, none⟩]⟩⟩

/-- The totals and one country. -/
private def countryAxis : Axis :=
  ⟨[("All", 0), ("US", 1)].map fun country : String × UInt32 =>
    ⟨[⟨false, ⟨"[Geo].[Country]"⟩, country.2, none, some (.text country.1)⟩]⟩⟩

/-- Sales on two columns with the count between them. -/
private def repeatedSales : Cellset :=
  ⟨[measureAxis ["[Measures].[Sales]", CalculatedMember.totalCount.text, "[Measures].[Sales]"],
      countryAxis],
    (["a", "1", "b", "c", "2", "d"].map fun text => ⟨some (.text text), none⟩).toArray⟩

/-- The last of two columns with a measure and the count of the last row are read. -/
theorem repeated_sales_read : ∃ report row totals,
    tableRows? repeatedSales true true = .ok report ∧
    report.rows = [row] ∧ row["[Measures].[Sales]"]? = some (some (.text "d")) ∧
    report.totals = some totals ∧ totals["[Measures].[Sales]"]? = some (some (.text "b")) ∧
    report.totalCount = some 2 := by
  have hreadable : IsReadable repeatedSales (measureAxis ["[Measures].[Sales]",
      CalculatedMember.totalCount.text, "[Measures].[Sales]"]) countryAxis true :=
    ⟨rfl, rfl, by decide, by decide, .inr (by decide)⟩
  obtain ⟨hok, hreads⟩ := tableRows?_reads_reply repeatedSales true true
  obtain ⟨report, hreport⟩ := hok.2 ⟨_, _, hreadable⟩
  have hread := hreads _ _ report hreadable hreport
  obtain ⟨row, others, hrow, hothers, hrows⟩ := List.forall₂_cons_left_iff.1 hread.others
  obtain rfl := List.forall₂_nil_left_iff.1 hothers
  obtain ⟨totals, more, htotal, hmore, htotals⟩ :=
    List.forall₂_cons_left_iff.1 (hread.totals (by decide))
  obtain rfl := List.forall₂_nil_left_iff.1 hmore
  obtain ⟨count, htotalCount, hcount⟩ := hread.count rfl (by decide) 1 (by decide)
  have htwo : count = 2 := ((standsFor_iff _ _).1 hcount).symm.trans (by decide +kernel)
  refine ⟨report, row, totals, hreport, hrows, ?_, Option.toList_eq_singleton_iff.1 htotals, ?_,
    htwo ▸ htotalCount⟩
  · exact hrow.of_measure _ 2 (by decide) (by decide) (by decide)
  · exact htotal.of_measure _ 2 (by decide) (by decide) (by decide)

end CubeQuery.Report
