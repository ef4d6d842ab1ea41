import CubeQuery.Report.Row

set_option autoImplicit false

/-!
# Dimension reports

The rows of a dimension query: the members of every row tuple and whether the row has data. Each
row has a cell for that flag, followed by a cell for the row count where one is asked for.
-/

namespace CubeQuery.Report

/-- One row and whether it has data. -/
structure DimensionRow (α : Type) where
  data : α
  isNonEmpty : Bool

/-- The rows of a dimension and their count where asked for. -/
structure Dimension (α : Type) where
  rows : List (DimensionRow α)
  totalCount : Option UInt64

namespace Dimension

/-- The report with the data of every row passed through `f`. -/
def mapM? {α β : Type} (f : α → Except Error β) (d : Dimension α) :
    Except Error (Dimension β) := do
  let rows ← d.rows.mapM fun row => (f row.data).map fun data => ⟨data, row.isNonEmpty⟩
  .ok ⟨rows, d.totalCount⟩

/-- A report in JSON, the data of its rows written by `write`. -/
def toJson {α : Type} (write : α → Json) (d : Dimension α) : Json :=
  let writeRow (row : DimensionRow α) : Json :=
    .object [("data", write row.data), ("isNonEmpty", .bool row.isNonEmpty)]
  .object (("rows", .ofList writeRow d.rows) ::
    Json.fieldOf "totalCount" Json.ofCount d.totalCount)

end Dimension

/-- Whether the value of a flag cell says that the row has data. -/
def isSet (flag : Option Value) : Bool :=
  match flag.bind Value.toNumber? with
  | some x => x == 1
  | none => false

/-- The report on a dimension's cellset. -/
def dimensionRows? (c : Cellset) (includeTotalCount : Bool) :
    Except Error (Dimension Row) := do
  let tuples := (← c.rowAxis?).tuples
  let width := if includeTotalCount then 2 else 1
  let expected := tuples.length * width
  if !tuples.isEmpty && expected ≠ c.cells.size then
    .error (.invalidResponse (.rowCellMismatch expected c.cells.size))
  let entries ← (tuples.mapM (readRow? c width)).run' 0
  let rows := entries.map fun (tuple, values) =>
    ⟨Row.addMembers ∅ tuple.members, isSet (values[0]?.join)⟩
  let count := entries.getLast?.bind fun entry => entry.2[1]?.join
  .ok ⟨rows, if includeTotalCount then some (countOf count) else none⟩

end CubeQuery.Report
