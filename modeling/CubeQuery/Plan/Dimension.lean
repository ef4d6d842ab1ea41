import CubeQuery.Plan.FilterSplit
import CubeQuery.Mdx.Statement
import CubeQuery.Request.Query

set_option autoImplicit false

/-!
# Statements of dimension queries

A dimension query puts one row per member of its attributes on rows. On columns stands a calculated
flag that is 1 for a row with data, followed by the calculated row count where one is asked for.
Levels that are only sorted by join the rows for sorting and are projected away at the end, and so
are the measures.
-/

namespace CubeQuery.Plan

open Mdx (Level SetExpr Expr Statement NamedSet CalculatedMember Condition Scalar)
open Request (Options DimensionQuery MemberSelection)

/-- A defined set by its name. -/
def setNamed (name : NamedSet) : SetExpr :=
  .named name

/-- A calculated member as an expression. -/
def calculated (member : CalculatedMember) : Scalar :=
  Mdx.Member.value (.calculated member)

/-- Refuses with an error if something is the case. -/
def refuseIf (isFault : Bool) (e : Error) : Except Error Unit :=
  if isFault then .error e else .ok ()

/-- Refuses attributes and measures with reserved names, attributes first. -/
def checkReservedNames (attributes measures : List Level) : Except Error Unit := do
  (Mdx.checkReserved attributes).mapError .invalidAttribute
  (Mdx.checkReserved measures).mapError .invalidMeasure

/-- Defines the row count as the number of elements of `counted`. -/
def defineTotalCount (statement : Statement) (counted : SetExpr) : Statement :=
  statement.defineMember CalculatedMember.totalCount.text (counted.count false).expr
    (some "Total Count")

/-- The columns with the row count behind them. -/
def withTotalCount? (columns : SetExpr) : Except Error SetExpr :=
  columns.union? [(Mdx.Member.calculated .totalCount).toSet]

/-- The levels sorted by that are neither attributes nor measures, without repeats. -/
def foreignLevels (attributes : List Level) (options : Options) : List Level :=
  options.sortLevels.foldl
    (fun found level =>
      if level.isMeasure || attributes.contains level || found.contains level then found
      else found ++ [level])
    []

/-- Defines the flag for rows with data. -/
def defineFlag (statement : Statement) (flag : Expr) : Statement :=
  statement.defineMember CalculatedMember.isNonEmpty.text flag (some "Is Non-Empty")

/-- The flag for rows with data: 1 unless every measure is empty. -/
def nonEmptyFlag? : Except Error Scalar :=
  (((setNamed .measures).count true).compare .equal (some (.whole 0))).iif? (.whole 0) (.whole 1)

/-- The rows that a selection keeps. -/
def selectRows (selection : MemberSelection) (rows : SetExpr) : SetExpr :=
  let flagIs (n : Int) : Condition :=
    (calculated .isNonEmpty).compare .equal (some (.whole n))
  match selection with
  | .all => rows
  | .empty => rows.filtered (flagIs 0)
  | .nonEmpty => rows.filtered (flagIs 1)

/-- The rows of a dimension query before sorting, and the definitions of flag and measures. -/
def flaggedRows? (statement : Statement) (query : DimensionQuery) :
    Except Error (Statement × SetExpr) :=
  if query.measures.isEmpty then .ok (defineFlag statement (.whole 1), setNamed .attributes)
  else do
    let flag ← nonEmptyFlag?
    let measures ← SetExpr.ofMeasures? query.measures
    let rows ← (setNamed .attributes).crossJoin? [setNamed .measures]
    .ok (defineFlag (statement.defineSet NamedSet.measures.text measures) flag.expr,
      selectRows (query.selection.getD .all) rows)

/-- Whether the rows of a dimension query range over more than its attributes. -/
def isWidened (query : DimensionQuery) : Bool :=
  !(foreignLevels query.attributes query.options).isEmpty || !query.measures.isEmpty

/-- The rows of a dimension query projected to its attributes where they range over more. -/
def projected? (query : DimensionQuery) (rows : SetExpr) : Except Error SetExpr :=
  if isWidened query then rows.extract? query.attributes else .ok rows

/-- The columns of a dimension query with given rows: the flag, then the row count if asked for. -/
def dimensionColumns? (split : FilterSplit) (statement : Statement) (query : DimensionQuery)
    (rows : SetExpr) : Except Error (Statement × SetExpr) :=
  let flag := (Mdx.Member.calculated .isNonEmpty).toSet
  if query.options.requestsTotalCount then do
    let counted ←
      match ← split.countSet? with
      | some set => .ok set
      | none => projected? query rows
    .ok (defineTotalCount statement counted, ← withTotalCount? flag)
  else .ok (statement, flag)

/-- The levels of a dimension query whose filters restrict it by sub-select. -/
def queriedLevels (query : DimensionQuery) : List Level :=
  query.attributes ++ foreignLevels query.attributes query.options

/-- The checks of a dimension query, and the split of its filters. -/
def splitDimension? (query : DimensionQuery) : Except Error FilterSplit := do
  Mdx.checkAttributes query.attributes
  Mdx.checkMeasures query.measures
  refuseIf query.attributes.isEmpty (.invalidQuery .noAttribute)
  checkReservedNames query.attributes query.measures
  FilterSplit.ofOptions (queriedLevels query) query.options

/-- The statement of a dimension query on a cube. -/
def dimensionStatement? (cube : String) (query : DimensionQuery) : Except Error Statement := do
  let split ← splitDimension? query
  let attributes ← split.levelsSet? (queriedLevels query)
  let statement := (Statement.ofCube cube).defineSet NamedSet.attributes.text attributes
  let (statement, rows) ← flaggedRows? statement query
  let (statement, columns) ← dimensionColumns? split statement query rows
  let rows ← projected? query (query.options.arrange rows)
  let statement := (statement.onColumns columns).onRows rows
  .ok ((statement.selectingFrom (← split.subSelect?)).slicedBy (← split.slicer?))

/-- The text of a dimension query on a cube. -/
def dimensionText? (cube : String) (query : DimensionQuery) : Except Error String := do
  (← dimensionStatement? cube query).text?

end CubeQuery.Plan
