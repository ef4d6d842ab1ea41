import CubeQuery.Proofs.Plan.ListedColumns
import CubeQuery.Proofs.Report.RowLevels
import CubeQuery.Proofs.Session.Calls

set_option autoImplicit false

/-!
# Records of requested levels

The levels of a property map are the query: its measures are measured, and the others are the rows.
A reply has more columns than that where a count is asked for, and none of the names that the
library makes up is in a map. The count is kept out of the rows by the same wish that put it on
columns, also out of the totals of a reply without rows, so that every level of a row is one of the
map.

Main statement: records are never refused for a level that was not expected, as long as the members
of the reply are of the levels asked for (`records_expect_their_levels`).
-/

namespace CubeQuery.Session

open Cellset (Axis)
open Mdx (Level CalculatedMember)
open Plan (dimensionText? tableStatement? tableText?)
open Report (Row PropertyMap)
open Request (Filter Options DimensionOptions TableQuery)

/-! ## Rows that fit a map -/

/-- A row whose levels are those of a map, none of them the count. -/
def Fits (map : PropertyMap) (row : Row) : Prop :=
  ∀ name ∈ row, name ∈ map.expressions ∧ name ≠ CalculatedMember.totalCount.text

/-- Whether an error is other than that of a level that was not expected. -/
def ExpectsLevels (e : Error) : Prop :=
  ∀ name, e ≠ .invalidResponse (.unexpectedLevel name)

theorem expectsLevels_of_isCellsetFault {e : Error} (h : e.IsCellsetFault) : ExpectsLevels e := by
  obtain ⟨fault, rfl, hfault⟩ := h
  rintro name heq
  cases heq
  cases hfault

/-- The record of a row that fits is not refused for its levels. -/
theorem record?_expectsLevels {α : Type} {map : PropertyMap} {row : Row} (h : Fits map row)
    (read? : Json → Option α) : FailsOnly ExpectsLevels (map.record? read? row) := by
  refine (Report.record?_failsOnly map read? row).mono ?_
  rintro _ (rfl | ⟨name, hrow, hname, -⟩)
  · intro name heq
    cases heq
  · exact absurd (h name hrow).1 hname

/-! ## Replies of requested levels -/

/-- The members on an axis are of some levels. -/
def MembersOf (levels : List Level) (axis : Axis) : Prop :=
  ∀ tuple ∈ axis.tuples, ∀ member ∈ tuple.members, member.level ∈ levels

/-- The levels of a map. -/
def mapLevels (map : PropertyMap) : List Level :=
  map.expressions.map Level.mk

/-- The table query for the records of a map. -/
def recordQuery (map : PropertyMap) (options : Options) : TableQuery :=
  ⟨[], (mapLevels map).filter (·.isMeasure), (mapLevels map).filter (!·.isMeasure), options⟩

theorem name_mem_expressions {map : PropertyMap} {level : Level} (h : level ∈ mapLevels map) :
    level.name ∈ map.expressions := by
  obtain ⟨name, hname, rfl⟩ := List.mem_map.1 h
  exact hname

/-- The rows and totals of a table of requested levels fit the map. -/
theorem fits_of_tableRows? {cube : String} {map : PropertyMap} {options : Options}
    {statement : Mdx.Statement} {c : Cellset} {columns rows : Axis} {names : List String}
    {report : Report.Table Row}
    (hstatement : tableStatement? cube (recordQuery map options) = .ok statement)
    (hanswered : statement.AnsweredBy c columns rows names)
    (hmembers : MembersOf (recordQuery map options).rows rows)
    (hreport : Report.tableRows? c options.requestsTotals options.requestsTotalCount = .ok report) :
    ∀ row ∈ report.rows ++ report.totals.toList, Fits map row := by
  obtain ⟨columns', rows', measures, hcolumns, hrows, hmeasures, hlevels⟩ :=
    Report.levels_of_tableRows? hreport
  cases hanswered.columnAxis?_eq.symm.trans hcolumns
  cases hanswered.rowAxis?_eq.symm.trans hrows
  cases hanswered.measureNames?_eq.symm.trans hmeasures
  have hcount := Plan.ne_totalCount_of_tableStatement? hstatement
  obtain ⟨set, hset, hlists⟩ := hanswered.listed
  have hnames := Plan.subset_of_lists_tableStatement rfl hstatement hset hlists
  intro row hrow name hname
  rcases hlevels row hrow name hname with ⟨tuple, htuple, member, hmember, rfl⟩ | ⟨hkept, hmem⟩
  · have hlevel := hmembers tuple htuple member hmember
    exact ⟨name_mem_expressions (List.mem_filter.1 hlevel).1,
      hcount member.level (List.mem_append_right _ hlevel)⟩
  · rcases List.mem_append.1 (hnames hmem) with hmeasure | hcounted
    · obtain ⟨level, hlevel, rfl⟩ := List.mem_map.1 hmeasure
      exact ⟨name_mem_expressions (List.mem_filter.1 hlevel).1,
        hcount level (List.mem_append_left _ hlevel)⟩
    · -- The wish that puts the count on columns keeps it out of the rows.
      exact absurd (Plan.isCount_of_mem_countNames hcounted) (Bool.eq_false_iff.1 hkept)

/-- Records of rows that fit the map are not refused for their levels. -/
theorem read?_tableRecords_expectsLevels {α : Type} {map : PropertyMap} {options : Options}
    {c : Cellset} (read? : Json → Option α)
    (hfits : ∀ report,
      Report.tableRows? c options.requestsTotals options.requestsTotalCount = .ok report →
        ∀ row ∈ report.rows ++ report.totals.toList, Fits map row) :
    FailsOnly ExpectsLevels ((Call.tableRecords map read? options).read? c) := by
  refine FailsOnly.bind ?_ fun report hreport => ?_
  · exact (Report.tableRows?_fault c _ _).mono fun _ => expectsLevels_of_isCellsetFault
  · exact Report.table_mapM?_failsOnly fun row hrow =>
      record?_expectsLevels (hfits report hreport row hrow) read?

/-- The rows of a dimension of requested levels fit the map. -/
theorem fits_of_dimensionRows? {cube : String} {map : PropertyMap} {options : DimensionOptions}
    {statement : Mdx.Statement} {c : Cellset} {rows : Axis} {report : Report.Dimension Row}
    (hstatement : Plan.dimensionStatement? cube (options.query (mapLevels map)) = .ok statement)
    (hrows : c.rowAxis? = .ok rows) (hmembers : MembersOf (mapLevels map) rows)
    (hreport : Report.dimensionRows? c options.options.requestsTotalCount = .ok report) :
    ∀ row ∈ report.rows, Fits map row.data := by
  obtain ⟨rows', hrows', hlevels⟩ := Report.levels_of_dimensionRows? hreport
  cases hrows.symm.trans hrows'
  intro row hrow name hname
  obtain ⟨tuple, htuple, member, hmember, rfl⟩ := hlevels row hrow name hname
  have hlevel := hmembers tuple htuple member hmember
  exact ⟨name_mem_expressions hlevel,
    Plan.ne_totalCount_of_dimensionStatement? hstatement member.level hlevel⟩

theorem read?_dimensionRecords_expectsLevels {α : Type} {map : PropertyMap}
    {options : DimensionOptions} {c : Cellset} (read? : Json → Option α)
    (hfits : ∀ report,
      Report.dimensionRows? c options.options.requestsTotalCount = .ok report →
        ∀ row ∈ report.rows, Fits map row.data) :
    FailsOnly ExpectsLevels ((Call.dimensionRecords map read? options).read? c) := by
  refine FailsOnly.bind ?_ fun report hreport => ?_
  · exact (Report.dimensionRows?_fault c _).mono fun _ => expectsLevels_of_isCellsetFault
  · exact Report.dimension_mapM?_failsOnly fun row hrow =>
      record?_expectsLevels (hfits report hreport row hrow) read?

/-- **Records are not refused for their levels.** The rows and totals of a table that are to fill
records have only levels of the map, never the count, where the columns of the reply start with the
members that the statement lists and the members on rows are of requested levels; so reading them
fails for another reason or not at all. The same holds for the rows of a dimension. -/
theorem records_expect_their_levels {σ : Type} (cube : Cube (StateM σ)) (map : PropertyMap)
    (s : σ) (c : Cellset) :
    (∀ options text statement columns rows names,
      tableText? cube.name (recordQuery map options) = .ok text →
      tableStatement? cube.name (recordQuery map options) = .ok statement →
      ((cube.transport text).run s).1 = .ok c → statement.AnsweredBy c columns rows names →
      MembersOf (recordQuery map options).rows rows →
      (∀ report, ((cube.table (recordQuery map options).measures (recordQuery map options).rows
          options).run s).1 = .ok report →
        ∀ row ∈ report.rows ++ report.totals.toList, Fits map row) ∧
      ∀ (α : Type) (read? : Json → Option α),
        FailsOnly ExpectsLevels ((cube.tableRecords map read? options).run s).1) ∧
    ∀ options text rows, dimensionText? cube.name (options.query (mapLevels map)) = .ok text →
      ((cube.transport text).run s).1 = .ok c → c.rowAxis? = .ok rows →
      MembersOf (mapLevels map) rows →
      (∀ report, ((cube.dimension (mapLevels map) options).run s).1 = .ok report →
        ∀ row ∈ report.rows, Fits map row.data) ∧
      ∀ (α : Type) (read? : Json → Option α),
        FailsOnly ExpectsLevels ((cube.dimensionRecords map read? options).run s).1 := by
  constructor
  · intro options text statement columns rows names htext hstatement hanswer hanswered hmembers
    have hfits : ∀ report,
        Report.tableRows? c options.requestsTotals options.requestsTotalCount = .ok report →
          ∀ row ∈ report.rows ++ report.totals.toList, Fits map row :=
      fun _ => fits_of_tableRows? hstatement hanswered hmembers
    constructor
    · have hperform := @Call.perform_of_answer σ cube (.table (recordQuery map options).measures
        (recordQuery map options).rows options) text s c htext hanswer
      exact fun report hreport => hfits report (hperform.symm.trans hreport)
    · intro α read?
      have hperform := @Call.perform_of_answer σ cube (.tableRecords map read? options) text s c
        htext hanswer
      exact hperform ▸ read?_tableRecords_expectsLevels read? hfits
  · intro options text rows htext hanswer hrows hmembers
    obtain ⟨split, attributes, counted, -, hstatement, -⟩ := Plan.statement_of_dimensionText? htext
    have hfits : ∀ report,
        Report.dimensionRows? c options.options.requestsTotalCount = .ok report →
          ∀ row ∈ report.rows, Fits map row.data :=
      fun _ => fits_of_dimensionRows? hstatement hrows hmembers
    constructor
    · have hperform := @Call.perform_of_answer σ cube (.dimension (mapLevels map) options) text s c
        htext hanswer
      exact fun report hreport => hfits report (hperform.symm.trans hreport)
    · intro α read?
      have hperform := @Call.perform_of_answer σ cube (.dimensionRecords map read? options) text s c
        htext hanswer
      exact hperform ▸ read?_dimensionRecords_expectsLevels read? hfits

/-- Sales by city as records. -/
private def salesMap : PropertyMap :=
  ⟨[("[Geo].[City]", "city"), ("[Measures].[Sales]", "sales")]⟩

/-- Cities as records. -/
private def cityMap : PropertyMap :=
  ⟨[("[Geo].[City]", "city")]⟩

/-- A filter that asks for the totals and for the count of the cities. -/
private def totalsOfCities : Options :=
  ⟨[(Filter.ofLevel ⟨"[Geo].[City]"⟩).withAll.withTotalCount], [], none, none, false⟩

/-- A column of a measure and the column of the count. -/
private def besideCount (measure : String) : Axis :=
  ⟨[measure, CalculatedMember.totalCount.text].map fun name => ⟨[⟨true, ⟨name⟩, 0, none, none⟩]⟩⟩

/-- No sales of any city. -/
private def noSales : Cellset :=
  ⟨[besideCount "[Measures].[Sales]", ⟨[]⟩], #[]⟩

/-- One city and the count of it. -/
private def oneCity : Cellset :=
  ⟨[besideCount CalculatedMember.isNonEmpty.text,
      ⟨[⟨[⟨false, ⟨"[Geo].[City]"⟩, 1, none, some (.text "a")⟩]⟩]⟩],
    #[⟨some (.text "1"), none⟩, ⟨some (.text "1"), none⟩]⟩

/-- The totals of a reply without rows have the sales and not the count, and the row of a city has
the city only. -/
theorem counted_cities_expect_their_levels :
    ((∃ report totals, (((Cube.answering "Sales" noSales).table [⟨"[Measures].[Sales]"⟩]
          [⟨"[Geo].[City]"⟩] totalsOfCities).run ()).1 = .ok report ∧
        report.totals = some totals ∧ Fits salesMap totals) ∧
      ∀ (α : Type) (read? : Json → Option α), FailsOnly ExpectsLevels
        (((Cube.answering "Sales" noSales).tableRecords salesMap read? totalsOfCities).run ()).1) ∧
    ∀ (α : Type) (read? : Json → Option α), FailsOnly ExpectsLevels
      (((Cube.answering "Sales" oneCity).dimensionRecords cityMap read?
        (.ofOptions totalsOfCities)).run ()).1 := by
  constructor
  · obtain ⟨htable, -⟩ :=
      records_expect_their_levels (Cube.answering "Sales" noSales) salesMap () noSales
    have hanswered : ∀ s : Mdx.Statement,
        tableStatement? "Sales" (recordQuery salesMap totalsOfCities) = .ok s →
        s.AnsweredBy noSales (besideCount "[Measures].[Sales]") ⟨[]⟩
          ["[Measures].[Sales]", CalculatedMember.totalCount.text] := by
      intro s hs
      obtain ⟨set, hset, hlists⟩ := Plan.lists_tableStatement_iff rfl (List.cons_ne_nil _ _) hs
      exact ⟨rfl, ⟨set, hset, (hlists _).2 rfl⟩,
        .cons ⟨_, rfl, rfl⟩ (.cons ⟨_, rfl, rfl⟩ .nil)⟩
    obtain ⟨hfits, hrecords⟩ := htable totalsOfCities _ _ _ _ _ rfl rfl rfl (hanswered _ rfl)
      (fun tuple htuple => nomatch htuple)
    exact ⟨⟨_, _, rfl, rfl, hfits _ rfl _ (List.mem_append_right _ List.mem_cons_self)⟩, hrecords⟩
  · obtain ⟨-, hdimension⟩ :=
      records_expect_their_levels (Cube.answering "Sales" oneCity) cityMap () oneCity
    obtain ⟨-, hrecords⟩ := hdimension (.ofOptions totalsOfCities) _ _ rfl rfl rfl (by
      simp [MembersOf, mapLevels, cityMap, PropertyMap.expressions])
    exact hrecords

end CubeQuery.Session
