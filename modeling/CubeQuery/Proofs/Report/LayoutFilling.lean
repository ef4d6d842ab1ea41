import CubeQuery.Proofs.Report.TableRows
import CubeQuery.Report.Layout
import Mathlib.Data.List.Forall2

set_option autoImplicit false

/-!
# Filling laid out tables

How the cells of a layout come by their contents. Going through the cells of all rows in order, a
given cell keeps its content and uses up no column, and a measured cell uses up the next one
(`Fills`). The number of measured cells before a cell is therefore both the column that it is
computed from and the place of its measure among the measures of the layout.

Main statement: a layout is filled exactly if columns, cells and measured cells are equally many and
no column is without members, and then each measured cell is computed from its own column
(`layout_fills_in_order`).
-/

namespace CubeQuery.Report

open Cellset (Cell Member Tuple Axis)

variable {α ε : Type}

/-! ## Describing a layout -/

/-- The row with one more cell, given or measured. -/
def LayoutRow.append (row : LayoutRow α ε) : LayoutCell α → LayoutRow α ε
  | .given content => row.give content
  | .measured name compute => row.measure name compute

/-- The layout that is described row by row, and each row cell by cell. -/
def Layout.ofRows (rows : List (LayoutRow α ε)) : Layout α ε :=
  rows.foldl (fun layout row => layout.add (row.cells.foldl .append (.ofExtra row.extra))) ⟨[]⟩

/-- The cells of all rows in order. -/
def declaredCells (rows : List (LayoutRow α ε)) : List (LayoutCell α) :=
  rows.flatMap (·.cells)

/-- The number of cells that are computed from a column. -/
def measuredCount (cells : List (LayoutCell α)) : Nat :=
  cells.countP (·.measure?.isSome)

@[simp]
theorem measuredCount_given (content : α) (cells : List (LayoutCell α)) :
    measuredCount (.given content :: cells) = measuredCount cells :=
  List.countP_cons_of_neg nofun

@[simp]
theorem measuredCount_measured (name : String) (compute : Cell → Member → α)
    (cells : List (LayoutCell α)) :
    measuredCount (.measured name compute :: cells) = measuredCount cells + 1 :=
  List.countP_cons_of_pos rfl

theorem foldl_append_cell (cells : List (LayoutCell α)) (row : LayoutRow α ε) :
    cells.foldl .append row = { row with cells := row.cells ++ cells } := by
  induction cells generalizing row with
  | nil => simp
  | cons cell rest ih =>
    rw [List.foldl_cons, ih]
    cases cell <;> simp [LayoutRow.append, LayoutRow.give, LayoutRow.measure]

/-- A description loses no row and no cell. -/
theorem rows_ofRows (rows : List (LayoutRow α ε)) : (Layout.ofRows rows).rows = rows := by
  have hfold : ∀ (done : List (LayoutRow α ε)),
      (rows.foldl (fun layout row => layout.add (row.cells.foldl .append (.ofExtra row.extra)))
        (⟨done⟩ : Layout α ε)).rows = done ++ rows := by
    induction rows with
    | nil => simp
    | cons row rest ih =>
      intro done
      rw [List.foldl_cons, foldl_append_cell, Layout.add, ih]
      simp [LayoutRow.ofExtra]
  exact hfold []

theorem measures_eq_filterMap (layout : Layout α ε) :
    layout.measures = (declaredCells layout.rows).filterMap (·.measure?) := by
  rw [Layout.measures, declaredCells, List.filterMap_flatMap]
  rfl

theorem length_filterMap_measure? (cells : List (LayoutCell α)) :
    (cells.filterMap (·.measure?)).length = measuredCount cells :=
  List.length_filterMap_eq_countP

/-- A measured cell asks for the measure at the place that the cells before it leave. -/
theorem getElem?_filterMap_measure? {cells : List (LayoutCell α)} {index : Nat} {name : String}
    {compute : Cell → Member → α} (h : cells[index]? = some (.measured name compute)) :
    (cells.filterMap (·.measure?))[measuredCount (cells.take index)]? = some name := by
  obtain ⟨hlt, hcell⟩ := List.getElem?_eq_some_iff.1 h
  have hsplit : cells = cells.take index ++ .measured name compute :: cells.drop (index + 1) := by
    rw [← hcell, List.getElem_cons_drop, List.take_append_drop]
  have hmeasures : cells.filterMap (·.measure?) = (cells.take index).filterMap (·.measure?) ++
      name :: (cells.drop (index + 1)).filterMap (·.measure?) := by
    conv_lhs => rw [hsplit]
    rw [List.filterMap_append]
    rfl
  rw [hmeasures, ← length_filterMap_measure?, List.getElem?_append_right (Nat.le_refl _),
    Nat.sub_self, List.getElem?_cons_zero]

/-! ## Using up columns -/

/-- Cells with the columns that they use up, in order, and with their contents. -/
inductive Fills : List (LayoutCell α) → List (Tuple × Cell) → List α → Prop where
  | nil : Fills [] [] []
  | given {cells : List (LayoutCell α)} {columns : List (Tuple × Cell)} {contents : List α}
      (content : α) : Fills cells columns contents →
      Fills (.given content :: cells) columns (content :: contents)
  | measured {cells : List (LayoutCell α)} {columns : List (Tuple × Cell)} {contents : List α}
      {name : String} {compute : Cell → Member → α} {tuple : Tuple} {member : Member}
      (cell : Cell) : tuple.members.head? = some member → Fills cells columns contents →
      Fills (.measured name compute :: cells) ((tuple, cell) :: columns)
        (compute cell member :: contents)

theorem firstMember?_eq_ok_iff (tuple : Tuple) (member : Member) :
    tuple.firstMember? = .ok member ↔ tuple.members.head? = some member := by
  rw [Tuple.firstMember?]
  cases tuple.members.head? <;> simp

namespace Fills

theorem length_contents {cells : List (LayoutCell α)} {columns : List (Tuple × Cell)}
    {contents : List α} (h : Fills cells columns contents) : contents.length = cells.length := by
  induction h with
  | nil => rfl
  | given content _ ih => exact congrArg (· + 1) ih
  | measured cell _ _ ih => exact congrArg (· + 1) ih

theorem append {first second : List (LayoutCell α)} {used other : List (Tuple × Cell)}
    {contents more : List α} (hfirst : Fills first used contents)
    (hsecond : Fills second other more) :
    Fills (first ++ second) (used ++ other) (contents ++ more) := by
  induction hfirst with
  | nil => exact hsecond
  | given content _ ih => exact .given content ih
  | measured cell hmember _ ih => exact .measured cell hmember ih

/-- What is used up by cells is used up by the first of them and then by the others. -/
theorem of_append {first second : List (LayoutCell α)} {columns : List (Tuple × Cell)}
    {contents more : List α} (h : Fills (first ++ second) columns (contents ++ more))
    (hlength : contents.length = first.length) :
    ∃ used other, columns = used ++ other ∧ Fills first used contents ∧
      Fills second other more := by
  induction first generalizing columns contents with
  | nil =>
    obtain rfl := List.length_eq_zero_iff.1 hlength
    exact ⟨[], columns, rfl, .nil, h⟩
  | cons cell rest ih =>
    obtain ⟨content, others, rfl⟩ := List.exists_cons_of_length_eq_add_one hlength
    have hothers : others.length = rest.length := Nat.succ.inj hlength
    cases h with
    | given _ h =>
      obtain ⟨used, other, rfl, hrest, hsecond⟩ := ih h hothers
      exact ⟨used, other, rfl, .given _ hrest, hsecond⟩
    | measured data hmember h =>
      obtain ⟨used, other, rfl, hrest, hsecond⟩ := ih h hothers
      exact ⟨_ :: used, other, rfl, .measured data hmember hrest, hsecond⟩

/-- Columns are used up by cells exactly if there is one with a member for each measured cell. -/
theorem exists_iff (cells : List (LayoutCell α)) (columns : List (Tuple × Cell)) :
    (∃ contents, Fills cells columns contents) ↔
      columns.length = measuredCount cells ∧ ∀ column ∈ columns, column.1.members ≠ [] := by
  induction cells generalizing columns with
  | nil =>
    constructor
    · rintro ⟨_, ⟨⟩⟩
      exact ⟨rfl, nofun⟩
    · rintro ⟨hlength, -⟩
      obtain rfl := List.length_eq_zero_iff.1 hlength
      exact ⟨[], .nil⟩
  | cons cell rest ih =>
    cases cell with
    | given content =>
      rw [measuredCount_given, ← ih]
      constructor
      · rintro ⟨_, h⟩
        cases h with
        | given _ h => exact ⟨_, h⟩
      · rintro ⟨contents, h⟩
        exact ⟨_, .given content h⟩
    | measured name compute =>
      rw [measuredCount_measured]
      constructor
      · rintro ⟨_, h⟩
        cases h with
        | measured data hmember h =>
          obtain ⟨hlength, hmembers⟩ := (ih _).1 ⟨_, h⟩
          refine ⟨congrArg (· + 1) hlength, List.forall_mem_cons.2 ⟨fun hnil => ?_, hmembers⟩⟩
          rw [hnil] at hmember
          cases hmember
      · rintro ⟨hlength, hmembers⟩
        obtain ⟨⟨tuple, data⟩, others, rfl⟩ := List.exists_cons_of_length_eq_add_one hlength
        obtain ⟨hfirst, hothers⟩ := List.forall_mem_cons.1 hmembers
        obtain ⟨contents, h⟩ := (ih others).2 ⟨Nat.succ.inj hlength, hothers⟩
        exact ⟨_, .measured data (List.head?_eq_some_head hfirst) h⟩

end Fills

/-- A run over cells uses up the columns that it does not leave over. -/
theorem fillCells?_eq_ok_iff (cells : List (LayoutCell α)) (columns rest : List (Tuple × Cell))
    (contents : List α) :
    Layout.fillCells? cells columns = .ok (contents, rest) ↔
      ∃ used, columns = used ++ rest ∧ Fills cells used contents := by
  induction cells generalizing columns contents with
  | nil =>
    rw [Layout.fillCells?]
    constructor
    · rintro ⟨⟩
      exact ⟨[], rfl, .nil⟩
    · rintro ⟨_, rfl, ⟨⟩⟩
      rfl
  | cons cell others ih =>
    cases cell with
    | given content =>
      rw [Layout.fillCells?]
      constructor
      · intro h
        obtain ⟨⟨later, left⟩, hrun, h⟩ := steps_of_bind_eq_ok h
        cases h
        obtain ⟨used, hused, hfills⟩ := (ih _ _).1 hrun
        exact ⟨used, hused, .given content hfills⟩
      · rintro ⟨used, hused, hfills⟩
        cases hfills with
        | given _ hfills => exact bind_of_eq_ok ((ih _ _).2 ⟨used, hused, hfills⟩)
    | measured name compute =>
      cases columns with
      | nil =>
        refine ⟨nofun, ?_⟩
        rintro ⟨used, hused, hfills⟩
        cases hfills
        cases hused
      | cons column columns =>
        obtain ⟨tuple, data⟩ := column
        rw [Layout.fillCells?]
        constructor
        · intro h
          obtain ⟨member, hmember, h⟩ := steps_of_bind_eq_ok h
          obtain ⟨⟨later, left⟩, hrun, h⟩ := steps_of_bind_eq_ok h
          cases h
          obtain ⟨used, rfl, hfills⟩ := (ih _ _).1 hrun
          exact ⟨_ :: used, rfl, .measured data ((firstMember?_eq_ok_iff _ _).1 hmember) hfills⟩
        · rintro ⟨used, hused, hfills⟩
          cases hfills with
          | measured data hmember hfills =>
            cases hused
            refine (bind_of_eq_ok ((firstMember?_eq_ok_iff _ _).2 hmember)).trans ?_
            exact bind_of_eq_ok ((ih _ _).2 ⟨_, rfl, hfills⟩)

/-- A filled row has what was attached to its description, and one content for each cell. -/
def LayoutRow.Shapes (row : LayoutRow α ε) (filled : FilledRow α ε) : Prop :=
  filled.extra = row.extra ∧ filled.cells.length = row.cells.length

/-- The contents of filled rows in order. -/
def contentsOf (filled : List (FilledRow α ε)) : List α :=
  filled.flatMap (·.cells)

/-- A run over rows is one over the cells of all of them. -/
theorem fillRows?_eq_ok_iff (rows : List (LayoutRow α ε)) (columns : List (Tuple × Cell))
    (filled : List (FilledRow α ε)) :
    Layout.fillRows? rows columns = .ok filled ↔
      List.Forall₂ LayoutRow.Shapes rows filled ∧
        ∃ used rest, columns = used ++ rest ∧
          Fills (declaredCells rows) used (contentsOf filled) := by
  induction rows generalizing columns filled with
  | nil =>
    rw [Layout.fillRows?]
    constructor
    · rintro ⟨⟩
      exact ⟨.nil, [], columns, rfl, .nil⟩
    · rintro ⟨⟨⟩, -⟩
      rfl
  | cons row others ih =>
    rw [Layout.fillRows?]
    constructor
    · intro h
      obtain ⟨⟨contents, left⟩, hrow, h⟩ := steps_of_bind_eq_ok h
      obtain ⟨later, hlater, h⟩ := steps_of_bind_eq_ok h
      cases h
      obtain ⟨used, rfl, hfills⟩ := (fillCells?_eq_ok_iff _ _ _ _).1 hrow
      obtain ⟨hshapes, more, rest, rfl, hmore⟩ := (ih _ _).1 hlater
      exact ⟨.cons ⟨rfl, hfills.length_contents⟩ hshapes, used ++ more, rest,
        (List.append_assoc ..).symm, hfills.append hmore⟩
    · rintro ⟨hshapes, columns, rest, rfl, hfills⟩
      cases hshapes with
      | @cons _ first _ later hshape hshapes =>
        obtain ⟨hextra, hlength⟩ := hshape
        obtain ⟨used, other, rfl, hrow, hlater⟩ := hfills.of_append hlength
        rw [List.append_assoc]
        refine (bind_of_eq_ok ((fillCells?_eq_ok_iff _ _ _ _).2 ⟨_, rfl, hrow⟩)).trans ?_
        refine (bind_of_eq_ok ((ih _ _).2 ⟨hshapes, other, rest, rfl, hlater⟩)).trans ?_
        rw [← hextra]

/-! ## The column of a cell -/

/-- The content of a cell before which a number of measured cells stand: the content that it is
given, or what it computes from the column and the cell with that number, which are those of the
measure with that number. -/
inductive IsContent (measures : List String) (axis : Axis) (cells : Array Cell) (number : Nat) :
    LayoutCell α → α → Prop where
  | given (content : α) : IsContent measures axis cells number (.given content) content
  | measured {name : String} {compute : Cell → Member → α} {tuple : Tuple} {member : Member}
      {cell : Cell} : measures[number]? = some name → axis.tuples[number]? = some tuple →
      tuple.members.head? = some member → cells[number]? = some cell →
      IsContent measures axis cells number (.measured name compute) (compute cell member)

theorem Fills.getElem?_given {cells : List (LayoutCell α)} {columns : List (Tuple × Cell)}
    {contents : List α} (h : Fills cells columns contents) {index : Nat} {content : α}
    (hcell : cells[index]? = some (.given content)) : contents[index]? = some content := by
  induction h generalizing index with
  | nil => cases hcell
  | given first _ ih =>
    cases index with
    | zero =>
      cases hcell
      rfl
    | succ index => exact ih hcell
  | measured data _ _ ih =>
    cases index with
    | zero => cases hcell
    | succ index => exact ih hcell

/-- A measured cell uses up the column that the measured cells before it leave. -/
theorem Fills.getElem?_measured {cells : List (LayoutCell α)} {columns : List (Tuple × Cell)}
    {contents : List α} (h : Fills cells columns contents) {index : Nat} {name : String}
    {compute : Cell → Member → α} (hcell : cells[index]? = some (.measured name compute)) :
    ∃ tuple member cell, columns[measuredCount (cells.take index)]? = some (tuple, cell) ∧
      tuple.members.head? = some member ∧ contents[index]? = some (compute cell member) := by
  induction h generalizing index with
  | nil => cases hcell
  | given content _ ih =>
    cases index with
    | zero => cases hcell
    | succ index =>
      rw [List.take_succ_cons, measuredCount_given]
      exact ih hcell
  | measured data hmember _ ih =>
    cases index with
    | zero =>
      cases hcell
      exact ⟨_, _, data, rfl, hmember, rfl⟩
    | succ index =>
      rw [List.take_succ_cons, measuredCount_measured]
      exact ih hcell

theorem Fills.isContent {cells : List (LayoutCell α)} {axis : Axis} {data : Array Cell}
    {contents : List α} (h : Fills cells (axis.tuples.zip data.toList) contents) {index : Nat}
    {cell : LayoutCell α} {content : α} (hcell : cells[index]? = some cell)
    (hcontent : contents[index]? = some content) :
    IsContent (cells.filterMap (·.measure?)) axis data (measuredCount (cells.take index))
      cell content := by
  cases cell with
  | given own =>
    rw [h.getElem?_given hcell] at hcontent
    cases hcontent
    exact .given content
  | measured name compute =>
    obtain ⟨tuple, member, found, hcolumn, hmember, hcomputed⟩ := h.getElem?_measured hcell
    rw [hcomputed] at hcontent
    cases hcontent
    obtain ⟨htuple, hfound⟩ := List.getElem?_zip_eq_some.1 hcolumn
    rw [Array.getElem?_toList] at hfound
    exact .measured (getElem?_filterMap_measure? hcell) htuple hmember hfound

/-! ## Filling a layout -/

/-- A cellset has columns with members and as many cells and columns as a given number. -/
structure HasColumns (c : Cellset) (count : Nat) (axis : Axis) : Prop where
  axis_eq : c.axes[0]? = some axis
  cellCount : c.cells.size = axis.tuples.length
  tupleCount : axis.tuples.length = count
  members : ∀ tuple ∈ axis.tuples, tuple.members ≠ []

/-- Rows are filled from columns and cells: each row has its shape, and each cell its content. -/
structure IsFilledFrom (rows : List (LayoutRow α ε)) (axis : Axis) (cells : Array Cell)
    (filled : List (FilledRow α ε)) : Prop where
  shapes : List.Forall₂ LayoutRow.Shapes rows filled
  contents : ∀ (index : Nat) (cell : LayoutCell α) (content : α),
    (declaredCells rows)[index]? = some cell → (contentsOf filled)[index]? = some content →
    IsContent (Layout.ofRows rows).measures axis cells
      (measuredCount ((declaredCells rows).take index)) cell content

theorem length_measures (layout : Layout α ε) :
    layout.measures.length = measuredCount (declaredCells layout.rows) := by
  rw [measures_eq_filterMap, length_filterMap_measure?]

/-- Of a cellset with a column axis the counts are compared before a row is filled. -/
theorem fill?_eq (layout : Layout α ε) {c : Cellset} {axis : Axis} (h : c.axes[0]? = some axis) :
    layout.fill? c =
      if axis.tuples.length ≠ c.cells.size then
        .error (.invalidResponse (.columnCellMismatch axis.tuples.length c.cells.size))
      else if axis.tuples.length ≠ layout.measures.length then
        .error (.invalidResponse
          (.columnMeasureMismatch axis.tuples.length layout.measures.length))
      else if axis.tuples.isEmpty then .ok []
      else Layout.fillRows? layout.rows (axis.tuples.zip c.cells.toList) := by
  refine (bind_of_eq_ok (columnAxis?_eq_ok_iff.2 h)).trans ?_
  by_cases hcells : axis.tuples.length ≠ c.cells.size
  · rw [if_pos hcells]
    exact (if_pos hcells).symm
  · by_cases hmeasures : axis.tuples.length ≠ layout.measures.length
    · rw [if_neg hcells, if_pos hmeasures]
      exact ((if_neg hcells).trans (if_pos hmeasures)).symm
    · rw [if_neg hcells, if_neg hmeasures]
      exact ((if_neg hcells).trans (if_neg hmeasures)).symm

/-- Contents, of which there is one for each cell, can be put into rows. -/
theorem exists_shapes {rows : List (LayoutRow α ε)} {contents : List α}
    (h : contents.length = (declaredCells rows).length) :
    ∃ filled, List.Forall₂ LayoutRow.Shapes rows filled ∧ contentsOf filled = contents := by
  induction rows generalizing contents with
  | nil =>
    obtain rfl := List.length_eq_zero_iff.1 h
    exact ⟨[], .nil, rfl⟩
  | cons row rest ih =>
    have hsplit : contents.length = row.cells.length + (declaredCells rest).length := by
      rw [h, declaredCells, List.flatMap_cons, List.length_append]
      rfl
    have hlater : (contents.drop row.cells.length).length = (declaredCells rest).length := by
      rw [List.length_drop, hsplit, Nat.add_sub_cancel_left]
    have hfirst : (contents.take row.cells.length).length = row.cells.length := by
      rw [List.length_take, hsplit, Nat.min_eq_left (Nat.le_add_right _ _)]
    obtain ⟨filled, hshapes, hcontents⟩ := ih hlater
    refine ⟨⟨contents.take row.cells.length, row.extra⟩ :: filled, .cons ⟨rfl, hfirst⟩ hshapes, ?_⟩
    rw [contentsOf, List.flatMap_cons]
    exact (congrArg _ hcontents).trans (List.take_append_drop _ _)

/-- Columns with their cells, of which there are as many, are all used up by as many cells. -/
theorem fillRows?_zip_eq_ok_iff {rows : List (LayoutRow α ε)} {axis : Axis} {cells : Array Cell}
    (hcells : axis.tuples.length = cells.size)
    (hmeasures : axis.tuples.length = measuredCount (declaredCells rows))
    (filled : List (FilledRow α ε)) :
    Layout.fillRows? rows (axis.tuples.zip cells.toList) = .ok filled ↔
      List.Forall₂ LayoutRow.Shapes rows filled ∧
        Fills (declaredCells rows) (axis.tuples.zip cells.toList) (contentsOf filled) := by
  rw [fillRows?_eq_ok_iff]
  refine and_congr_right fun _ => ?_
  constructor
  · rintro ⟨used, rest, hzip, hfills⟩
    have hlength := congrArg List.length hzip
    rw [List.length_zip, Array.length_toList, ← hcells, Nat.min_self, List.length_append,
      ((Fills.exists_iff _ _).1 ⟨_, hfills⟩).1, hmeasures] at hlength
    have hrest : rest = [] := List.length_eq_zero_iff.1 (by omega)
    rw [hzip, hrest, List.append_nil]
    exact hfills
  · intro hfills
    exact ⟨_, [], (List.append_nil _).symm, hfills⟩

/-- A layout is filled where the counts agree and every column has a member. -/
theorem fill?_isOk_iff (layout : Layout α ε) (c : Cellset) :
    (∃ filled, layout.fill? c = .ok filled) ↔
      ∃ axis, HasColumns c (measuredCount (declaredCells layout.rows)) axis := by
  constructor
  · rintro ⟨filled, h⟩
    obtain ⟨axis, haxis, -⟩ := steps_of_bind_eq_ok h
    rw [columnAxis?_eq_ok_iff] at haxis
    rw [fill?_eq layout haxis, length_measures] at h
    have hcells : axis.tuples.length = c.cells.size := by
      by_contra hne
      rw [if_pos hne] at h
      cases h
    rw [if_neg (not_not.2 hcells)] at h
    have hmeasures : axis.tuples.length = measuredCount (declaredCells layout.rows) := by
      by_contra hne
      rw [if_pos hne] at h
      cases h
    rw [if_neg (not_not.2 hmeasures)] at h
    refine ⟨axis, haxis, hcells.symm, hmeasures, ?_⟩
    split at h
    · next hempty =>
      rw [List.isEmpty_iff.1 hempty]
      exact nofun
    · obtain ⟨-, hfills⟩ := (fillRows?_zip_eq_ok_iff hcells hmeasures _).1 h
      have hmembers := ((Fills.exists_iff _ _).1 ⟨_, hfills⟩).2
      have hfirst : (axis.tuples.zip c.cells.toList).map Prod.fst = axis.tuples :=
        List.map_fst_zip (Nat.le_of_eq (hcells.trans Array.length_toList.symm))
      rw [← hfirst, List.forall_mem_map]
      exact hmembers
  · rintro ⟨axis, haxis, hcells, hmeasures, hmembers⟩
    have hzip : (axis.tuples.zip c.cells.toList).length =
        measuredCount (declaredCells layout.rows) := by
      rw [List.length_zip, Array.length_toList, hcells, Nat.min_self, hmeasures]
    obtain ⟨contents, hfills⟩ := (Fills.exists_iff _ _).2
      ⟨hzip, fun column hcolumn => hmembers column.1 (List.of_mem_zip hcolumn).1⟩
    obtain ⟨filled, hshapes, rfl⟩ := exists_shapes hfills.length_contents
    rw [fill?_eq layout haxis, length_measures, if_neg (not_not.2 hcells.symm),
      if_neg (not_not.2 hmeasures)]
    split
    · exact ⟨[], rfl⟩
    · exact ⟨filled, (fillRows?_zip_eq_ok_iff hcells.symm hmeasures _).2 ⟨hshapes, hfills⟩⟩

/-- **Measured cells use up the columns in the order in which they are described.** A layout is
filled exactly if the cellset has a column axis, its columns, its cells and the measured cells of
the layout are equally many, and no column is without members. If there is a measured cell, every
row then has what was attached to it and one content for each of its cells: a given cell keeps its
content, and the measured cell with a number, counted through all rows, computes its content from
the cell and the first member of the column with that number, which is also the number of its
measure. -/
theorem layout_fills_in_order (rows : List (LayoutRow α ε)) (c : Cellset) :
    ((∃ filled, (Layout.ofRows rows).fill? c = .ok filled) ↔
      ∃ axis, HasColumns c (measuredCount (declaredCells rows)) axis) ∧
    ∀ filled, (Layout.ofRows rows).fill? c = .ok filled → 0 < measuredCount (declaredCells rows) →
      ∃ axis, c.axes[0]? = some axis ∧ IsFilledFrom rows axis c.cells filled := by
  have haccepts := fill?_isOk_iff (Layout.ofRows rows) c
  rw [rows_ofRows] at haccepts
  refine ⟨haccepts, ?_⟩
  intro filled h hmeasured
  obtain ⟨axis, hcolumns⟩ := haccepts.1 ⟨filled, h⟩
  refine ⟨axis, hcolumns.axis_eq, ?_⟩
  have hempty : ¬ axis.tuples.isEmpty = true := by
    rw [List.isEmpty_iff_length_eq_zero, hcolumns.tupleCount]
    omega
  rw [fill?_eq _ hcolumns.axis_eq, length_measures, rows_ofRows,
    if_neg (not_not.2 hcolumns.cellCount.symm), if_neg (not_not.2 hcolumns.tupleCount),
    if_neg hempty] at h
  obtain ⟨hshapes, hfills⟩ :=
    (fillRows?_zip_eq_ok_iff hcolumns.cellCount.symm hcolumns.tupleCount _).1 h
  refine ⟨hshapes, fun index cell content hcell hcontent => ?_⟩
  rw [measures_eq_filterMap, rows_ofRows]
  exact hfills.isContent hcell hcontent

/-- A column of a measure. -/
private def column (name : String) : Tuple :=
  ⟨[⟨true, ⟨name⟩, 0, none, none⟩]⟩

/-- Sales under a heading, and the name of the cost measure. -/
private def salesAndCost : List (LayoutRow String Nat) :=
  [⟨[.given "Sales", .measured "[Measures].[Sales]" fun cell _ => cell.formattedValue.getD ""],
    some 1⟩,
    ⟨[.measured "[Measures].[Cost]" fun _ member => member.level.name], none⟩]

/-- A reply to a query of both measures. -/
private def salesAndCostReply : Cellset :=
  ⟨[⟨[column "[Measures].[Sales]", column "[Measures].[Cost]"]⟩],
    #[⟨none, some "$10"⟩, ⟨none, some "$4"⟩]⟩

/-- The second measured cell, in the second row, is that of the second column. -/
theorem sales_and_cost_fill_in_order : ∃ filled,
    (Layout.ofRows salesAndCost).fill? salesAndCostReply = .ok filled ∧
    0 < measuredCount (declaredCells salesAndCost) ∧
    contentsOf filled = ["Sales", "$10", "[Measures].[Cost]"] ∧
    ∃ axis, salesAndCostReply.axes[0]? = some axis ∧
      IsFilledFrom salesAndCost axis salesAndCostReply.cells filled :=
  ⟨_, rfl, by decide, rfl,
    (layout_fills_in_order salesAndCost salesAndCostReply).2 _ rfl (by decide)⟩

end CubeQuery.Report
