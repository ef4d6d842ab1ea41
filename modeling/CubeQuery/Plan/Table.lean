import CubeQuery.Plan.Dimension
import CubeQuery.Plan.Grain

set_option autoImplicit false

/-!
# Statements of table queries

A table query puts its measures on columns, broken down by column attributes where there are any,
and its row attributes on rows. Only tuples with data are kept where there are measures. Sorting
and paging act on the rows if there are any and on the columns otherwise.
-/

namespace CubeQuery.Plan

open Mdx (Level SetExpr Statement NamedSet)
open Request (TableQuery)

/-- The elements of a set that have data for some measure; all of them without measures. -/
def withData (measures : List Level) (set : SetExpr) : SetExpr :=
  if measures.isEmpty then set else .nonEmpty set (some (setNamed .measures))

/-- The columns of a table query and the definitions they need. -/
def tableColumns? (split : FilterSplit) (statement : Statement) (query : TableQuery) :
    Except Error (Statement × SetExpr) :=
  match query.columns.isEmpty, query.measures.isEmpty with
  | true, true => .error (.invalidQuery .noColumn)
  | true, false => do
    let measures ← SetExpr.ofMeasures? query.measures
    .ok (statement.defineSet NamedSet.measures.text measures, setNamed .measures)
  | false, true => do
    let columns ← split.levelsSet? query.columns
    .ok (statement.defineSet NamedSet.columns.text columns, setNamed .columns)
  | false, false => do
    let columns ← split.levelsSet? query.columns
    let measures ← SetExpr.ofMeasures? query.measures
    .ok ((statement.defineSet NamedSet.measures.text measures).defineSet NamedSet.columns.text
        (withData query.measures columns),
      ← (setNamed .columns).crossJoin? [setNamed .measures])

/-- The columns of a table query sorted where there are no rows, and its rows where there are. -/
def arrangedAxes? (split : FilterSplit) (statement : Statement) (query : TableQuery)
    (columns : SetExpr) : Except Error (Statement × SetExpr) :=
  if query.rows.isEmpty then .ok (statement, query.options.arrange columns)
  else do
    let rows ← split.sortedSet? query.rows query.options (withData query.measures)
    .ok ((statement.defineSet NamedSet.rows.text rows).onRows (setNamed .rows), columns)

/-- The levels that make the rows of a table, or its columns where it has no rows. -/
def tableGrain (query : TableQuery) : List Level :=
  if query.rows.isEmpty then query.columns else query.rows

/-- The set that a table query counts. -/
def tableCountSet? (split : FilterSplit) (query : TableQuery) : Except Error SetExpr := do
  match ← split.countSet? with
  | some set => .ok set
  | none =>
    refuseIf (tableGrain query).isEmpty (.invalidQuery .nothingToCount)
    split.levelsSet? (tableGrain query)

/-- The columns of a table query with the row count behind them if it is asked for. -/
def countedColumns? (split : FilterSplit) (statement : Statement) (query : TableQuery)
    (columns : SetExpr) : Except Error (Statement × SetExpr) :=
  if query.options.requestsTotalCount then do
    let counted ← tableCountSet? split query
    .ok (defineTotalCount statement (withData query.measures counted), ← withTotalCount? columns)
  else .ok (statement, columns)

/-- The checks of a table query, and the split of its filters. -/
def splitTable? (query : TableQuery) : Except Error FilterSplit := do
  Mdx.checkAttributes query.columns
  Mdx.checkMeasures query.measures
  Mdx.checkAttributes query.rows
  checkReservedNames query.columns query.measures
  checkReservedNames query.rows []
  FilterSplit.ofOptions (query.columns ++ query.rows) query.options

/-- The statement of a table query on a cube. -/
def tableStatement? (cube : String) (query : TableQuery) : Except Error Statement := do
  let split ← splitTable? query
  let (statement, columns) ← tableColumns? split (Statement.ofCube cube) query
  let (statement, columns) ← arrangedAxes? split statement query columns
  let (statement, columns) ← countedColumns? split statement query columns
  let statement := statement.onColumns columns
  .ok ((statement.selectingFrom (← split.subSelect?)).slicedBy (← split.slicer?))

/-- The text of a table query on a cube. -/
def tableText? (cube : String) (query : TableQuery) : Except Error String := do
  (← tableStatement? cube query).text?

end CubeQuery.Plan
