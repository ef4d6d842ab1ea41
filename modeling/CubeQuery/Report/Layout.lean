import CubeQuery.Cellset.Basic

set_option autoImplicit false

/-!
# Laid out tables

Tables described cell by cell. A cell is either given or computed from a measure, and the cells with
measures use up the columns of a query for these measures one after another, row by row.
-/

namespace CubeQuery.Report

open Cellset (Cell Member Tuple)

/-- A cell that is given, or computed from the next column, whose measure it names. -/
inductive LayoutCell (α : Type) where
  | given (content : α)
  | measured (measure : String) (compute : Cell → Member → α)

/-- The measure that a cell asks for. -/
def LayoutCell.measure? {α : Type} : LayoutCell α → Option String
  | given _ => none
  | measured measure _ => some measure

/-- The description of a row, with what the caller attaches to it. -/
structure LayoutRow (α ε : Type) where
  cells : List (LayoutCell α)
  extra : Option ε

/-- The description of a table. -/
structure Layout (α ε : Type) where
  rows : List (LayoutRow α ε)

/-- A row of a filled table. -/
structure FilledRow (α ε : Type) where
  cells : List α
  extra : Option ε

namespace LayoutRow

variable {α ε : Type}

/-- The row without cells. -/
def ofExtra (extra : Option ε) : LayoutRow α ε :=
  ⟨[], extra⟩

/-- The row with one more given cell. -/
def give (row : LayoutRow α ε) (content : α) : LayoutRow α ε :=
  { row with cells := row.cells ++ [.given content] }

/-- The row with one more cell computed from a measure. -/
def measure (row : LayoutRow α ε) (name : String) (compute : Cell → Member → α) :
    LayoutRow α ε :=
  { row with cells := row.cells ++ [.measured name compute] }

/-- The measures that a row asks for. -/
def measures (row : LayoutRow α ε) : List String :=
  row.cells.filterMap (·.measure?)

end LayoutRow

namespace Layout

variable {α ε : Type}

/-- The table with one more row. -/
def add (layout : Layout α ε) (row : LayoutRow α ε) : Layout α ε :=
  ⟨layout.rows ++ [row]⟩

/-- The measures that a table asks for, in order. -/
def measures (layout : Layout α ε) : List String :=
  layout.rows.flatMap (·.measures)

/-- The contents of cells, given the columns and cells not used yet, and those left over. -/
def fillCells? : List (LayoutCell α) → List (Tuple × Cell) →
    Except Error (List α × List (Tuple × Cell))
  | [], columns => .ok ([], columns)
  | .given content :: cells, columns => do
    let (contents, rest) ← fillCells? cells columns
    .ok (content :: contents, rest)
  | .measured _ _ :: _, [] => .error (.invalidResponse .noMembers)
  | .measured _ compute :: cells, (tuple, cell) :: columns => do
    let member ← tuple.firstMember?
    let (contents, rest) ← fillCells? cells columns
    .ok (compute cell member :: contents, rest)

/-- The contents of rows, given the columns and cells not used yet. -/
def fillRows? : List (LayoutRow α ε) → List (Tuple × Cell) →
    Except Error (List (FilledRow α ε))
  | [], _ => .ok []
  | row :: rows, columns => do
    let (contents, rest) ← fillCells? row.cells columns
    .ok (⟨contents, row.extra⟩ :: (← fillRows? rows rest))

/--
The table filled from the cellset of its measures: columns, cells and measures must be equally many.
A table without measures has no rows.
-/
def fill? (layout : Layout α ε) (c : Cellset) : Except Error (List (FilledRow α ε)) := do
  let columns := (← c.columnAxis?).tuples
  if columns.length ≠ c.cells.size then
    .error (.invalidResponse (.columnCellMismatch columns.length c.cells.size))
  if columns.length ≠ layout.measures.length then
    .error (.invalidResponse (.columnMeasureMismatch columns.length layout.measures.length))
  if columns.isEmpty then .ok []
  else fillRows? layout.rows (columns.zip c.cells.toList)

end Layout

/-- A filled row in JSON. -/
def FilledRow.toJson {α ε : Type} (writeCell : α → Json) (writeExtra : ε → Json)
    (row : FilledRow α ε) : Json :=
  .object (("cells", .ofList writeCell row.cells) ::
    Json.fieldOf "extendedProperties" writeExtra row.extra)

end CubeQuery.Report
