import CubeQuery.Report.Row

set_option autoImplicit false

/-!
# Table reports

The rows of a table query: for every row tuple the values of the measures and of its members. A row
tuple with a member at level number 0 gives the totals, of which there is exactly one if they are
asked for and none otherwise. The calculated row count is read apart from the rows.
-/

namespace CubeQuery.Report

open Cellset (Tuple)

/-- The rows of a table, their totals and their count where asked for. -/
structure Table (α : Type) where
  rows : List α
  totals : Option α
  totalCount : Option UInt64

namespace Table

/-- The report with every row passed through `f`, the rows before the totals. -/
def mapM? {α β : Type} (f : α → Except Error β) (t : Table α) : Except Error (Table β) := do
  let rows ← t.rows.mapM f
  let totals ← t.totals.mapM f
  .ok ⟨rows, totals, t.totalCount⟩

/-- A report in JSON, its rows written by `write`. -/
def toJson {α : Type} (write : α → Json) (t : Table α) : Json :=
  .object ([("rows", .ofList write t.rows)] ++ Json.fieldOf "totals" write t.totals
    ++ Json.fieldOf "totalCount" Json.ofCount t.totalCount)

end Table

/-- The measures that column tuples stand for. -/
def measureNames? (columns : List Tuple) : Except Error (List String) :=
  columns.mapM fun tuple => tuple.firstMember?.map (·.level.name)

/-- Whether a column holds the row count that is asked for. -/
def isCount (includeTotalCount : Bool) (measure : String) : Bool :=
  includeTotalCount && measure == Mdx.CalculatedMember.totalCount.text

/-- Whether a row tuple stands for totals. -/
def isTotals (tuple : Tuple) : Bool :=
  tuple.members.any (·.levelNumber == 0)

/-- The row of a tuple with the given measure cells, counts left out; members win over measures. -/
def rowOf (includeTotalCount : Bool) (tuple : Tuple) (cells : List (String × Option Value)) :
    Row :=
  let row := (cells.filter fun cell => !isCount includeTotalCount cell.1).foldl
    (fun row cell => row.insert cell.1 cell.2) (∅ : Row)
  row.addMembers tuple.members

/-- The totals of a table without rows: zero for every measure. -/
def zeroTotals (includeTotalCount : Bool) (measures : List String) : Row :=
  (measures.filter fun measure => !isCount includeTotalCount measure).foldl
    (fun row measure => row.insert measure (some (.number 0))) (∅ : Row)

/-- The totals among those found, exactly one or none as asked for. -/
def checkTotals (includeTotals : Bool) (found : List Row) : Except Error (Option Row) :=
  match found with
  | [] => if includeTotals then .error (.invalidResponse .missingTotals) else .ok none
  | [totals] =>
    if includeTotals then .ok (some totals) else .error (.invalidResponse .unexpectedTotals)
  | _ => .error (.invalidResponse .multipleTotals)

/-- The report on a table's cellset. -/
def tableRows? (c : Cellset) (includeTotals includeTotalCount : Bool) :
    Except Error (Table Row) := do
  let columns := (← c.columnAxis?).tuples
  let tuples := (← c.rowAxis?).tuples
  let measures ← measureNames? columns
  let entries ← (tuples.mapM (readRow? c measures.length)).run' 0
  let (totalTuples, others) := entries.partition fun entry => isTotals entry.1
  let toRow (entry : Tuple × List (Option Value)) : Row :=
    rowOf includeTotalCount entry.1 (measures.zip entry.2)
  let found :=
    if tuples.isEmpty && includeTotals then [zeroTotals includeTotalCount measures]
    else totalTuples.map toRow
  let totals ← checkTotals includeTotals found
  let count := (entries.getLast?.bind fun entry =>
    ((measures.zip entry.2).filter fun cell => isCount includeTotalCount cell.1).getLast?).bind
      Prod.snd
  .ok ⟨others.map toRow, totals, if includeTotalCount then some (countOf count) else none⟩

end CubeQuery.Report
