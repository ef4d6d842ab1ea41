import CubeQuery.Request.Options

set_option autoImplicit false

/-!
# Queries

The shapes of query: a dimension query lists members, a table query breaks measures down by
attributes, and a chart is a table query of one or two row attributes.
-/

namespace CubeQuery.Request

open Mdx (Level)

/-- Which members a dimension query with measures keeps. -/
inductive MemberSelection where
  | all
  | empty
  | nonEmpty
deriving DecidableEq, Repr, Inhabited

namespace MemberSelection

/-- The name of a selection. -/
def name : MemberSelection → String
  | all => "all"
  | empty => "empty"
  | nonEmpty => "nonEmpty"

/-- The selection with a given name. -/
def ofName? (s : String) : Option MemberSelection :=
  [all, empty, nonEmpty].find? fun selection => selection.name == s

/-- The selection with a given name; another name is an error. -/
def parse (s : String) : Except Error MemberSelection :=
  match ofName? s with
  | some selection => .ok selection
  | none => .error (.invalidQuery (.unknownType s))

end MemberSelection

/-- A query for the members of attributes. -/
structure DimensionQuery where
  attributes : List Level
  measures : List Level
  selection : Option MemberSelection
  options : Options
deriving Inhabited

/-- A query for measures by attributes on columns and rows. -/
structure TableQuery where
  columns : List Level
  measures : List Level
  rows : List Level
  options : Options
deriving Inhabited

/-- What a dimension query has besides its attributes. -/
structure DimensionOptions where
  measures : List Level
  selection : Option MemberSelection
  options : Options
deriving Inhabited

/-- The query for attributes under the given options. -/
def DimensionOptions.query (o : DimensionOptions) (attributes : List Level) : DimensionQuery :=
  ⟨attributes, o.measures, o.selection, o.options⟩

/-- Options without measures. -/
def DimensionOptions.ofOptions (options : Options) : DimensionOptions :=
  ⟨[], none, options⟩

/-- What a chart shows: measures along an axis of values, possibly in one series per group. -/
structure ChartConfig where
  measures : List Level
  xAxis : Level
  groupBy : Option Level
deriving DecidableEq, Repr, Inhabited

namespace ChartConfig

/-- The chart with one series per measure. -/
def ofAxis (measures : List Level) (xAxis : Level) : ChartConfig :=
  ⟨measures, xAxis, none⟩

/-- The chart with one series per measure and group. -/
def groupedBy (c : ChartConfig) (level : Level) : ChartConfig :=
  { c with groupBy := some level }

/-- The row attributes of the table behind a chart. -/
def rows (c : ChartConfig) : List Level :=
  c.xAxis :: c.groupBy.toList

/-- The table behind a chart. -/
def query (c : ChartConfig) (options : Options) : TableQuery :=
  ⟨[], c.measures, c.rows, options⟩

end ChartConfig

end CubeQuery.Request
