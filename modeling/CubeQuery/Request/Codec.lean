import CubeQuery.Json.Record
import CubeQuery.Request.Query

set_option autoImplicit false

/-!
# Requests in JSON

How filters, sort keys, options and queries are written to JSON and read from it. Absent options
are left out, apart from the level of a sort key, which is written as null. The filters, sort keys
and paging of a query stand among its own fields, which decides how freely the comparison of a
filter and the direction of a sort key may be written.
-/

namespace CubeQuery

/-- A level in JSON: its name. -/
def Mdx.Level.toJson (level : Level) : Json :=
  .text level.name

/-- The level that a JSON text names. -/
def Mdx.Level.ofJson? (json : Json) : Option Level :=
  json.text?.map Level.mk

namespace Request

open Mdx (Level Comparison Direction)
open Json (Placement)

/-! ## Filters and sort keys -/

/-- A filter in JSON. -/
def Filter.toJson (f : Filter) : Json :=
  .object ([("levelExpression", f.level.toJson)]
    ++ Json.fieldOf "comparisonOperator" (fun c => .text c.text) f.comparison
    ++ Json.fieldOf "comparisonValue" Value.toJson f.comparisonValue
    ++ [("includeAll", .bool f.includeAll), ("includeTotalCount", .bool f.includeTotalCount)]
    ++ if f.memberKeys.isEmpty then [] else [("memberKeys", .ofList Value.toJson f.memberKeys)])

/-- The filter that JSON gives at a place; all but its level may be missing. -/
def Filter.ofJsonAt? (place : Placement) (json : Json) : Option Filter := do
  let r ← json.record? ["levelExpression", "comparisonOperator", "comparisonValue", "includeAll",
    "includeTotalCount", "memberKeys"]
  let level ← r.required "levelExpression" Level.ofJson?
  let comparison ← r.optional "comparisonOperator" (Json.choice? place Comparison.ofText?)
  let comparisonValue ← r.optional "comparisonValue" Value.ofJson?
  let includeAll ← r.defaulted "includeAll" false Json.bool?
  let includeTotalCount ← r.defaulted "includeTotalCount" false Json.bool?
  let memberKeys ← r.defaulted "memberKeys" [] (Json.list? Value.ofJson?)
  some ⟨level, comparison, comparisonValue, includeAll, includeTotalCount, memberKeys⟩

/-- The filter that JSON gives by itself. -/
def Filter.ofJson? : Json → Option Filter :=
  ofJsonAt? .separate

/-- A sort key in JSON. -/
def SortKey.toJson (key : SortKey) : Json :=
  .object (("levelExpression", .ofOption Level.toJson key.level) ::
    Json.fieldOf "sortDirection" (fun d => .text d.text) key.direction)

/-- The sort key that JSON gives at a place. -/
def SortKey.ofJsonAt? (place : Placement) (json : Json) : Option SortKey := do
  let r ← json.record? ["levelExpression", "sortDirection"]
  let level ← r.optional "levelExpression" Level.ofJson?
  let direction ← r.optional "sortDirection" (Json.choice? place Direction.ofText?)
  some ⟨level, direction⟩

/-- The sort key that JSON gives by itself. -/
def SortKey.ofJson? : Json → Option SortKey :=
  ofJsonAt? .separate

/-! ## Options -/

/-- The fields of options. -/
def Options.jsonFields (o : Options) : List (String × Json) :=
  [("filters", .ofList Filter.toJson o.filters), ("orderBy", .ofList SortKey.toJson o.orderBy)]
    ++ Json.fieldOf "skip" Json.ofCount o.skip ++ Json.fieldOf "top" Json.ofCount o.top
    ++ [("includeTotalCount", .bool o.includeTotalCount)]

/-- Options in JSON. -/
def Options.toJson (o : Options) : Json :=
  .object o.jsonFields

/-- The options among the fields of a record at a place; all may be missing. -/
def Options.ofRecord? (place : Placement) (r : Json.Record) : Option Options := do
  let filters ← r.defaulted "filters" [] (Json.list? (Filter.ofJsonAt? place))
  let orderBy ← r.defaulted "orderBy" [] (Json.list? (SortKey.ofJsonAt? place))
  let skip ← r.optional "skip" Json.count64?
  let top ← r.optional "top" Json.count64?
  let includeTotalCount ← r.defaulted "includeTotalCount" false Json.bool?
  some ⟨filters, orderBy, skip, top, includeTotalCount⟩

/-- The options that JSON gives by itself. -/
def Options.ofJson? (json : Json) : Option Options :=
  (json.record? ["filters", "orderBy", "skip", "top", "includeTotalCount"]).bind
    (Options.ofRecord? .separate)

/-! ## Queries -/

/-- A selection of members in JSON: its name. -/
def MemberSelection.toJson (selection : MemberSelection) : Json :=
  .text selection.name

/-- The selection of members that JSON names. -/
def MemberSelection.ofJson? : Json → Option MemberSelection :=
  Json.choice? .separate ofName?

/-- The levels that a field of a record lists, none if it is missing. -/
def levelsOf? (r : Json.Record) (name : String) : Option (List Level) :=
  r.defaulted name [] (Json.list? Level.ofJson?)

/-- A dimension query in JSON. -/
def DimensionQuery.toJson (q : DimensionQuery) : Json :=
  .object ([("attributes", .ofList Level.toJson q.attributes),
    ("measures", .ofList Level.toJson q.measures)]
    ++ Json.fieldOf "type" MemberSelection.toJson q.selection ++ q.options.jsonFields)

/-- The dimension query that a JSON object gives; its attributes must be given. -/
def DimensionQuery.ofJson? (json : Json) : Option DimensionQuery := do
  let r ← json.object?
  let attributes ← r.required "attributes" (Json.list? Level.ofJson?)
  let measures ← levelsOf? r "measures"
  let selection ← r.optional "type" MemberSelection.ofJson?
  some ⟨attributes, measures, selection, ← Options.ofRecord? .embedded r⟩

/-- A table query in JSON. -/
def TableQuery.toJson (q : TableQuery) : Json :=
  .object ([("columns", .ofList Level.toJson q.columns),
    ("measures", .ofList Level.toJson q.measures), ("rows", .ofList Level.toJson q.rows)]
    ++ q.options.jsonFields)

/-- The table query that a JSON object gives. -/
def TableQuery.ofJson? (json : Json) : Option TableQuery := do
  let r ← json.object?
  let columns ← levelsOf? r "columns"
  let measures ← levelsOf? r "measures"
  let rows ← levelsOf? r "rows"
  some ⟨columns, measures, rows, ← Options.ofRecord? .embedded r⟩

/-- The options of a dimension query in JSON. -/
def DimensionOptions.toJson (o : DimensionOptions) : Json :=
  .object ([("measures", .ofList Level.toJson o.measures)]
    ++ Json.fieldOf "type" MemberSelection.toJson o.selection ++ o.options.jsonFields)

/-- The options of a dimension query that a JSON object gives. -/
def DimensionOptions.ofJson? (json : Json) : Option DimensionOptions := do
  let r ← json.object?
  let measures ← levelsOf? r "measures"
  let selection ← r.optional "type" MemberSelection.ofJson?
  some ⟨measures, selection, ← Options.ofRecord? .embedded r⟩

/-- A chart's configuration in JSON. -/
def ChartConfig.toJson (c : ChartConfig) : Json :=
  .object ([("measures", .ofList Level.toJson c.measures),
    ("xAxisLevelExpression", c.xAxis.toJson)]
    ++ Json.fieldOf "groupByLevelExpression" Level.toJson c.groupBy)

/-- The chart's configuration that JSON gives. -/
def ChartConfig.ofJson? (json : Json) : Option ChartConfig := do
  let r ← json.record? ["measures", "xAxisLevelExpression", "groupByLevelExpression"]
  let measures ← r.required "measures" (Json.list? Level.ofJson?)
  let xAxis ← r.required "xAxisLevelExpression" Level.ofJson?
  let groupBy ← r.optional "groupByLevelExpression" Level.ofJson?
  some ⟨measures, xAxis, groupBy⟩

end Request

end CubeQuery
