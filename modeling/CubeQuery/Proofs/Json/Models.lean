import CubeQuery.Cellset.Codec
import CubeQuery.Proofs.Json.Fields
import CubeQuery.Request.Codec

set_option autoImplicit false

/-!
# Models that are read back

What is written to JSON is read back: filters and sort keys, options by themselves and among the
fields of a query, the queries and the configuration of charts, and the cellset of a reply with all
its parts. The only thing that JSON has no form for is a number that is not finite. It is written as
null, which is read as no value where a value may be absent and not at all among the keys of
members.

Main statement: a model is read back exactly if its numbers are finite (`models_read_back`).
-/

namespace CubeQuery

open Json (Placement field?)

theorem Value.ofJson?_toJson_iff {value : Value} :
    ofJson? value.toJson = some value ↔ value.isFinite = true := by
  refine ⟨fun h => ?_, ofJson?_toJson⟩
  cases value with
  | number x =>
    cases hx : x.isFinite with
    | true => exact hx
    | false => simp [toJson, hx, ofJson?] at h
  | text s => rfl

theorem Mdx.Level.list?_ofList (levels : List Mdx.Level) :
    Json.list? Level.ofJson? (.ofList Level.toJson levels) = some levels :=
  Json.list?_ofList_iff.2 fun _ _ => rfl

namespace Request

open Mdx (Level Comparison Direction)

/-! ## Filters and sort keys -/

namespace Filter

/-- Whether a filter compares with finite numbers only and selects by such only. -/
def IsFinite (f : Filter) : Prop :=
  (∀ value ∈ f.comparisonValue, value.isFinite = true) ∧
    ∀ key ∈ f.memberKeys, key.isFinite = true

/-- A filter is read field by field. -/
theorem ofJsonAt?_eq_some_iff (place : Placement) {json : Json} {r : Json.Record} {f : Filter}
    (h : json.record? ["levelExpression", "comparisonOperator", "comparisonValue", "includeAll",
      "includeTotalCount", "memberKeys"] = some r) :
    ofJsonAt? place json = some f ↔
      r.required "levelExpression" Level.ofJson? = some f.level ∧
      r.optional "comparisonOperator" (Json.choice? place Comparison.ofText?)
        = some f.comparison ∧
      r.optional "comparisonValue" Value.ofJson? = some f.comparisonValue ∧
      r.defaulted "includeAll" false Json.bool? = some f.includeAll ∧
      r.defaulted "includeTotalCount" false Json.bool? = some f.includeTotalCount ∧
      r.defaulted "memberKeys" [] (Json.list? Value.ofJson?) = some f.memberKeys := by
  rw [ofJsonAt?, h]
  simp only [Option.bind_eq_bind, Option.bind_some, Option.bind_eq_some_iff, Option.some.injEq]
  constructor
  · rintro ⟨level, hlevel, comparison, hcomparison, value, hvalue, all, hall, count, hcount, keys,
      hkeys, rfl⟩
    exact ⟨hlevel, hcomparison, hvalue, hall, hcount, hkeys⟩
  · rintro ⟨hlevel, hcomparison, hvalue, hall, hcount, hkeys⟩
    exact ⟨_, hlevel, _, hcomparison, _, hvalue, _, hall, _, hcount, _, hkeys, rfl⟩

/-- A filter is read back, wherever it stands, exactly if its numbers are finite. -/
theorem ofJsonAt?_toJson_iff (place : Placement) (f : Filter) :
    ofJsonAt? place f.toJson = some f ↔ f.IsFinite := by
  have hlevel : field? "levelExpression" f.toJson.byName.fields = some f.level.toJson := by
    simp [toJson, Json.byName]
  have hcomparison : field? "comparisonOperator" f.toJson.byName.fields
      = f.comparison.map fun c => .text c.text := by
    simp [toJson, Json.byName, apply_ite (field? _)]
  have hvalue : field? "comparisonValue" f.toJson.byName.fields
      = f.comparisonValue.map Value.toJson := by
    simp [toJson, Json.byName, apply_ite (field? _)]
  have hall : field? "includeAll" f.toJson.byName.fields = some (.bool f.includeAll) := by
    simp [toJson, Json.byName]
  have hcount : field? "includeTotalCount" f.toJson.byName.fields
      = some (.bool f.includeTotalCount) := by
    simp [toJson, Json.byName]
  have hkeys : field? "memberKeys" f.toJson.byName.fields
      = if f.memberKeys.isEmpty then none else some (.ofList Value.toJson f.memberKeys) := by
    simp [toJson, Json.byName, apply_ite (field? _)]
  have hrecord : ∀ names, f.toJson.record? names = some f.toJson.byName := fun _ => rfl
  rw [ofJsonAt?_eq_some_iff place (hrecord _), Json.Record.required_eq hlevel,
    Json.Record.optional_eq_some_iff rfl hcomparison,
    Json.Record.optional_eq_some_iff rfl hvalue, Json.Record.defaulted_eq hall,
    Json.Record.defaulted_eq hcount, Json.Record.defaulted_nil_eq_some_iff hkeys]
  simp only [Value.ofJson?_toJson_iff]
  constructor
  · rintro ⟨-, -, hvalue, -, -, hkeys⟩
    exact ⟨hvalue, hkeys⟩
  · rintro ⟨hvalue, hkeys⟩
    exact ⟨rfl, fun c _ => c.ofText?_text, hvalue, rfl, rfl, hkeys⟩

end Filter

/-- A sort key is read back, wherever it stands. -/
theorem SortKey.ofJsonAt?_toJson (place : Placement) (key : SortKey) :
    ofJsonAt? place key.toJson = some key := by
  have hlevel : field? "levelExpression" key.toJson.byName.fields
      = some (.ofOption Level.toJson key.level) := by
    simp [toJson, Json.byName]
  have hdirection : field? "sortDirection" key.toJson.byName.fields
      = key.direction.map fun d => .text d.text := by
    simp [toJson, Json.byName]
  -- The level may be missing, but it is always written, as null where there is none.
  have hreadLevel : key.toJson.byName.optional "levelExpression" Level.ofJson?
      = some key.level := by
    rw [Json.Record.optional_eq_nullable hlevel, Json.Record.nullable_eq_some_iff rfl hlevel]
    exact fun _ _ => rfl
  have hreadDirection : key.toJson.byName.optional "sortDirection"
      (Json.choice? place Direction.ofText?) = some key.direction := by
    rw [Json.Record.optional_eq_some_iff rfl hdirection]
    exact fun d _ => d.ofText?_text
  have hrecord : ∀ names, key.toJson.record? names = some key.toJson.byName :=
    fun _ => rfl
  rw [ofJsonAt?, hrecord]
  simp only [Option.bind_eq_bind, Option.bind_some, hreadLevel, hreadDirection]

/-! ## Options -/

namespace Options

/-- The names of the fields of options. -/
def fieldNames : List String :=
  ["filters", "orderBy", "skip", "top", "includeTotalCount"]

/-- Whether the filters of options have finite numbers only. -/
def IsFinite (o : Options) : Prop :=
  ∀ f ∈ o.filters, f.IsFinite

/-- Options are read field by field. -/
theorem ofRecord?_eq_some_iff (place : Placement) {r : Json.Record} {o : Options} :
    ofRecord? place r = some o ↔
      r.defaulted "filters" [] (Json.list? (Filter.ofJsonAt? place)) = some o.filters ∧
      r.defaulted "orderBy" [] (Json.list? (SortKey.ofJsonAt? place)) = some o.orderBy ∧
      r.optional "skip" Json.count64? = some o.skip ∧
      r.optional "top" Json.count64? = some o.top ∧
      r.defaulted "includeTotalCount" false Json.bool? = some o.includeTotalCount := by
  rw [ofRecord?]
  simp only [Option.bind_eq_bind, Option.bind_eq_some_iff, Option.some.injEq]
  constructor
  · rintro ⟨filters, hfilters, orderBy, horderBy, skip, hskip, top, htop, count, hcount, rfl⟩
    exact ⟨hfilters, horderBy, hskip, htop, hcount⟩
  · rintro ⟨hfilters, horderBy, hskip, htop, hcount⟩
    exact ⟨_, hfilters, _, horderBy, _, hskip, _, htop, _, hcount, rfl⟩

/-- Every count is read back. -/
theorem count64?_ofCount (n : UInt64) : Json.count64? (Json.ofCount n) = some n := by
  have hsize : n.toNat < UInt64.size := n.toNat_lt
  simp [Json.ofCount, Json.count64?, hsize]

/-- Options are read back from any fields that have theirs among them, exactly if their numbers are
finite. -/
theorem ofRecord?_iff (place : Placement) {r : Json.Record} {o : Options}
    (h : ∀ name ∈ fieldNames, field? name r.fields = field? name o.jsonFields) :
    ofRecord? place r = some o ↔ o.IsFinite := by
  have hfilters : field? "filters" r.fields = some (.ofList Filter.toJson o.filters) := by
    rw [h _ (by simp [fieldNames])]
    simp [jsonFields]
  have horderBy : field? "orderBy" r.fields = some (.ofList SortKey.toJson o.orderBy) := by
    rw [h _ (by simp [fieldNames])]
    simp [jsonFields]
  have hskip : field? "skip" r.fields = o.skip.map Json.ofCount := by
    rw [h _ (by simp [fieldNames])]
    simp [jsonFields]
  have htop : field? "top" r.fields = o.top.map Json.ofCount := by
    rw [h _ (by simp [fieldNames])]
    simp [jsonFields]
  have hcount : field? "includeTotalCount" r.fields = some (.bool o.includeTotalCount) := by
    rw [h _ (by simp [fieldNames])]
    simp [jsonFields]
  rw [ofRecord?_eq_some_iff, Json.Record.defaulted_eq hfilters, Json.list?_ofList_iff,
    Json.Record.defaulted_eq horderBy, Json.list?_ofList_iff,
    Json.Record.optional_eq_some_iff rfl hskip, Json.Record.optional_eq_some_iff rfl htop,
    Json.Record.defaulted_eq hcount]
  simp only [Filter.ofJsonAt?_toJson_iff]
  constructor
  · rintro ⟨hfilters, -⟩
    exact hfilters
  · intro hfilters
    exact ⟨hfilters, fun key _ => key.ofJsonAt?_toJson place, fun n _ => count64?_ofCount n,
      fun n _ => count64?_ofCount n, rfl⟩

/-- Options by themselves are read back exactly if their numbers are finite. -/
theorem ofJson?_toJson_iff (o : Options) : ofJson? o.toJson = some o ↔ o.IsFinite :=
  ofRecord?_iff .separate fun _ _ => rfl

end Options

/-! ## Queries -/

theorem MemberSelection.ofJson?_toJson (selection : MemberSelection) :
    ofJson? selection.toJson = some selection := by
  cases selection <;> decide

theorem levelsOf?_eq {r : Json.Record} {name : String} {levels : List Level}
    (h : field? name r.fields = some (.ofList Level.toJson levels)) :
    levelsOf? r name = some levels := by
  rw [levelsOf?, Json.Record.defaulted_eq h, Level.list?_ofList]

/-- A selection of members is read back, or its absence. -/
theorem optional_selection {r : Json.Record} {selection : Option MemberSelection}
    (h : field? "type" r.fields = selection.map MemberSelection.toJson) :
    r.optional "type" MemberSelection.ofJson? = some selection := by
  rw [Json.Record.optional_eq_some_iff rfl h]
  exact fun selection _ => selection.ofJson?_toJson

/-- A dimension query is read back exactly if its numbers are finite. -/
theorem DimensionQuery.ofJson?_toJson_iff (q : DimensionQuery) :
    ofJson? q.toJson = some q ↔ q.options.IsFinite := by
  have hattributes : field? "attributes" q.toJson.byName.fields
      = some (.ofList Level.toJson q.attributes) := by
    simp [toJson, Json.byName]
  have hmeasures : field? "measures" q.toJson.byName.fields
      = some (.ofList Level.toJson q.measures) := by
    simp [toJson, Json.byName]
  have hselection : field? "type" q.toJson.byName.fields
      = q.selection.map MemberSelection.toJson := by
    simp [toJson, Json.byName, Options.jsonFields]
  -- The query has no field with the name of one of its options, so each option is found behind.
  have hoptions : ∀ name ∈ Options.fieldNames,
      field? name q.toJson.byName.fields = field? name q.options.jsonFields := by
    simp [Options.fieldNames, toJson, Json.byName]
  have hobject : q.toJson.object? = some q.toJson.byName := rfl
  rw [ofJson?, hobject]
  simp only [Option.bind_eq_bind, Option.bind_some, Json.Record.required_eq hattributes,
    Level.list?_ofList, levelsOf?_eq hmeasures, optional_selection hselection]
  rw [← Options.ofRecord?_iff .embedded hoptions]
  refine Json.bind_model_eq_some_iff (DimensionQuery.mk q.attributes q.measures q.selection) ?_
  intro found h
  injection h

/-- The options of a dimension query are read back exactly if their numbers are finite. -/
theorem DimensionOptions.ofJson?_toJson_iff (o : DimensionOptions) :
    ofJson? o.toJson = some o ↔ o.options.IsFinite := by
  have hmeasures : field? "measures" o.toJson.byName.fields
      = some (.ofList Level.toJson o.measures) := by
    simp [toJson, Json.byName]
  have hselection : field? "type" o.toJson.byName.fields
      = o.selection.map MemberSelection.toJson := by
    simp [toJson, Json.byName, Options.jsonFields]
  have hoptions : ∀ name ∈ Options.fieldNames,
      field? name o.toJson.byName.fields = field? name o.options.jsonFields := by
    simp [Options.fieldNames, toJson, Json.byName]
  have hobject : o.toJson.object? = some o.toJson.byName := rfl
  rw [ofJson?, hobject]
  simp only [Option.bind_eq_bind, Option.bind_some, levelsOf?_eq hmeasures,
    optional_selection hselection]
  rw [← Options.ofRecord?_iff .embedded hoptions]
  refine Json.bind_model_eq_some_iff (DimensionOptions.mk o.measures o.selection) ?_
  intro found h
  injection h

/-- A table query is read back exactly if its numbers are finite. -/
theorem TableQuery.ofJson?_toJson_iff (q : TableQuery) :
    ofJson? q.toJson = some q ↔ q.options.IsFinite := by
  have hcolumns : field? "columns" q.toJson.byName.fields
      = some (.ofList Level.toJson q.columns) := by
    simp [toJson, Json.byName]
  have hmeasures : field? "measures" q.toJson.byName.fields
      = some (.ofList Level.toJson q.measures) := by
    simp [toJson, Json.byName]
  have hrows : field? "rows" q.toJson.byName.fields = some (.ofList Level.toJson q.rows) := by
    simp [toJson, Json.byName]
  have hoptions : ∀ name ∈ Options.fieldNames,
      field? name q.toJson.byName.fields = field? name q.options.jsonFields := by
    simp [Options.fieldNames, toJson, Json.byName]
  have hobject : q.toJson.object? = some q.toJson.byName := rfl
  rw [ofJson?, hobject]
  simp only [Option.bind_eq_bind, Option.bind_some, levelsOf?_eq hcolumns, levelsOf?_eq hmeasures,
    levelsOf?_eq hrows]
  rw [← Options.ofRecord?_iff .embedded hoptions]
  refine Json.bind_model_eq_some_iff (TableQuery.mk q.columns q.measures q.rows) ?_
  intro found h
  injection h

/-- The configuration of a chart is read back. -/
theorem ChartConfig.ofJson?_toJson (c : ChartConfig) : ofJson? c.toJson = some c := by
  have hmeasures : field? "measures" c.toJson.byName.fields
      = some (.ofList Level.toJson c.measures) := by
    simp [toJson, Json.byName]
  have hxAxis : field? "xAxisLevelExpression" c.toJson.byName.fields = some c.xAxis.toJson := by
    simp [toJson, Json.byName]
  have hgroupBy : field? "groupByLevelExpression" c.toJson.byName.fields
      = c.groupBy.map Level.toJson := by
    simp [toJson, Json.byName]
  have hreadGroup : c.toJson.byName.optional "groupByLevelExpression"
      Level.ofJson? = some c.groupBy := by
    rw [Json.Record.optional_eq_some_iff rfl hgroupBy]
    exact fun _ _ => rfl
  have hrecord : ∀ names, c.toJson.record? names = some c.toJson.byName := fun _ => rfl
  rw [ofJson?, hrecord]
  simp only [Option.bind_eq_bind, Option.bind_some, Json.Record.required_eq hmeasures,
    Level.list?_ofList, Json.Record.required_eq hxAxis, hreadGroup]
  rfl

end Request

/-! ## Cellsets -/

namespace Cellset

/-- Whether the value of a member is finite, if it has one. -/
def Member.IsFinite (m : Member) : Prop :=
  ∀ value ∈ m.value, value.isFinite = true

/-- Whether the value of a cell is finite, if it has one. -/
def Cell.IsFinite (c : Cell) : Prop :=
  ∀ value ∈ c.value, value.isFinite = true

/-- Whether the members and the cells of a cellset have finite numbers only. -/
def IsFinite (c : Cellset) : Prop :=
  (∀ axis ∈ c.axes, ∀ tuple ∈ axis.tuples, ∀ member ∈ tuple.members, member.IsFinite) ∧
    ∀ cell ∈ c.cells, cell.IsFinite

theorem count32?_levelNumber (n : UInt32) : Json.count32? (.integer n.toNat) = some n := by
  have hsize : n.toNat < UInt32.size := n.toNat_lt
  simp [Json.count32?, hsize]

/-- A text is read back where it may be null. -/
theorem nullable_text {r : Json.Record} {name : String} {text : Option String}
    (h : field? name r.fields = some (.ofOption .text text)) :
    r.nullable name Json.text? = some text := by
  rw [Json.Record.nullable_eq_some_iff rfl h]
  exact fun _ _ => rfl

/-- A value is read back where it may be null exactly if it is finite. -/
theorem nullable_value_iff {r : Json.Record} {name : String} {value : Option Value}
    (h : field? name r.fields = some (.ofOption Value.toJson value)) :
    r.nullable name Value.ofJson? = some value ↔ ∀ v ∈ value, v.isFinite = true := by
  rw [Json.Record.nullable_eq_some_iff rfl h]
  simp only [Value.ofJson?_toJson_iff]

/-- A member is read back exactly if its value is finite. -/
theorem Member.ofJson?_toJson_iff (m : Member) : ofJson? m.toJson = some m ↔ m.IsFinite := by
  have hmeasure : field? "isMeasure" m.toJson.byName.fields = some (.bool m.isMeasure) := by
    simp [toJson, Json.byName]
  have hlevel : field? "levelExpression" m.toJson.byName.fields = some (.text m.level.name) := by
    simp [toJson, Json.byName]
  have hnumber : field? "levelNumber" m.toJson.byName.fields
      = some (.integer m.levelNumber.toNat) := by
    simp [toJson, Json.byName]
  have hcaption : field? "caption" m.toJson.byName.fields = some (.ofOption .text m.caption) := by
    simp [toJson, Json.byName]
  have hvalue : field? "value" m.toJson.byName.fields = some (.ofOption Value.toJson m.value) := by
    simp [toJson, Json.byName]
  have hrecord : ∀ names, m.toJson.record? names = some m.toJson.byName := fun _ => rfl
  rw [ofJson?, hrecord, IsFinite, ← nullable_value_iff hvalue]
  simp only [Option.bind_eq_bind, Option.bind_some, Json.Record.required_eq hmeasure,
    Json.Record.required_eq hlevel, Json.text?, Json.bool?, Json.Record.required_eq hnumber,
    count32?_levelNumber, nullable_text hcaption]
  refine Json.bind_model_eq_some_iff (Member.mk m.isMeasure m.level m.levelNumber m.caption) ?_
  intro found h
  injection h

/-- A cell is read back exactly if its value is finite. -/
theorem Cell.ofJson?_toJson_iff (c : Cell) : ofJson? c.toJson = some c ↔ c.IsFinite := by
  have hvalue : field? "value" c.toJson.byName.fields = some (.ofOption Value.toJson c.value) := by
    simp [toJson, Json.byName]
  have hformatted : field? "formattedValue" c.toJson.byName.fields
      = some (.ofOption .text c.formattedValue) := by
    simp [toJson, Json.byName]
  have hrecord : ∀ names, c.toJson.record? names = some c.toJson.byName := fun _ => rfl
  rw [ofJson?, hrecord, IsFinite, ← nullable_value_iff hvalue]
  simp only [Option.bind_eq_bind, Option.bind_some, nullable_text hformatted]
  refine Json.bind_model_eq_some_iff (fun value => Cell.mk value c.formattedValue) ?_
  intro found h
  injection h

/-- A tuple is read back exactly if its members are. -/
theorem Tuple.ofJson?_toJson_iff (t : Tuple) :
    ofJson? t.toJson = some t ↔ ∀ member ∈ t.members, member.IsFinite := by
  have hmembers : field? "members" t.toJson.byName.fields
      = some (.ofList Member.toJson t.members) := by
    simp [toJson, Json.byName]
  have hrecord : ∀ names, t.toJson.record? names = some t.toJson.byName := fun _ => rfl
  rw [ofJson?, hrecord]
  simp only [Option.bind_eq_bind, Option.bind_some, Json.Record.required_eq hmembers,
    Option.map_eq_bind, ← Member.ofJson?_toJson_iff]
  rw [← Json.list?_ofList_iff]
  refine Json.bind_model_eq_some_iff Tuple.mk ?_
  intro found h
  injection h

/-- An axis is read back exactly if the members of its tuples are. -/
theorem Axis.ofJson?_toJson_iff (a : Axis) :
    ofJson? a.toJson = some a ↔ ∀ tuple ∈ a.tuples, ∀ member ∈ tuple.members, member.IsFinite := by
  have htuples : field? "tuples" a.toJson.byName.fields
      = some (.ofList Tuple.toJson a.tuples) := by
    simp [toJson, Json.byName]
  have hrecord : ∀ names, a.toJson.record? names = some a.toJson.byName := fun _ => rfl
  rw [ofJson?, hrecord]
  simp only [Option.bind_eq_bind, Option.bind_some, Json.Record.required_eq htuples,
    Option.map_eq_bind, ← Tuple.ofJson?_toJson_iff]
  rw [← Json.list?_ofList_iff]
  refine Json.bind_model_eq_some_iff Axis.mk ?_
  intro found h
  injection h

/-- A cellset is read back exactly if its numbers are finite. -/
theorem ofJson?_toJson_iff (c : Cellset) : ofJson? c.toJson = some c ↔ c.IsFinite := by
  have haxes : field? "axes" c.toJson.byName.fields = some (.ofList Axis.toJson c.axes) := by
    simp [toJson, Json.byName]
  have hcells : field? "cells" c.toJson.byName.fields
      = some (.ofList Cell.toJson c.cells.toList) := by
    simp [toJson, Json.byName]
  have hrecord : ∀ names, c.toJson.record? names = some c.toJson.byName := fun _ => rfl
  have hfinite : c.IsFinite ↔
      Json.list? Axis.ofJson? (.ofList Axis.toJson c.axes) = some c.axes ∧
        Json.list? Cell.ofJson? (.ofList Cell.toJson c.cells.toList) = some c.cells.toList := by
    simp only [Json.list?_ofList_iff, Axis.ofJson?_toJson_iff, Cell.ofJson?_toJson_iff,
      Array.mem_toList_iff]
    rfl
  rw [ofJson?, hrecord, hfinite]
  simp only [Option.bind_eq_bind, Option.bind_some, Json.Record.required_eq haxes,
    Json.Record.required_eq hcells, Option.bind_eq_some_iff, Option.some.injEq]
  constructor
  · rintro ⟨axes, hreadAxes, cells, hreadCells, rfl⟩
    exact ⟨hreadAxes, hreadCells⟩
  · rintro ⟨hreadAxes, hreadCells⟩
    exact ⟨c.axes, hreadAxes, c.cells.toList, hreadCells, rfl⟩

end Cellset

/-! ## All models -/

/-- **Models are read back from JSON.** Every filter, options, query and cellset is what is read
from its JSON exactly if its numbers are finite, and every sort key and configuration of a chart is
in any case. -/
theorem models_read_back :
    (∀ f : Request.Filter, Request.Filter.ofJson? f.toJson = some f ↔ f.IsFinite) ∧
    (∀ key : Request.SortKey, Request.SortKey.ofJson? key.toJson = some key) ∧
    (∀ o : Request.Options, Request.Options.ofJson? o.toJson = some o ↔ o.IsFinite) ∧
    (∀ q : Request.DimensionQuery,
      Request.DimensionQuery.ofJson? q.toJson = some q ↔ q.options.IsFinite) ∧
    (∀ o : Request.DimensionOptions,
      Request.DimensionOptions.ofJson? o.toJson = some o ↔ o.options.IsFinite) ∧
    (∀ q : Request.TableQuery,
      Request.TableQuery.ofJson? q.toJson = some q ↔ q.options.IsFinite) ∧
    (∀ c : Request.ChartConfig, Request.ChartConfig.ofJson? c.toJson = some c) ∧
    ∀ c : Cellset, Cellset.ofJson? c.toJson = some c ↔ c.IsFinite := by
  refine ⟨?_, ?_, ?_, ?_, ?_, ?_, ?_, ?_⟩
  · exact Request.Filter.ofJsonAt?_toJson_iff .separate
  · exact Request.SortKey.ofJsonAt?_toJson .separate
  · exact Request.Options.ofJson?_toJson_iff
  · exact Request.DimensionQuery.ofJson?_toJson_iff
  · exact Request.DimensionOptions.ofJson?_toJson_iff
  · exact Request.TableQuery.ofJson?_toJson_iff
  · exact Request.ChartConfig.ofJson?_toJson
  · exact Cellset.ofJson?_toJson_iff

end CubeQuery
