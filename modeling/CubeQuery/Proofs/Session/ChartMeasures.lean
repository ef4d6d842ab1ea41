import CubeQuery.Proofs.Plan.ListedColumns
import CubeQuery.Proofs.Report.ChartSeries
import CubeQuery.Proofs.Session.Calls

set_option autoImplicit false

/-!
# The measures of charts

A chart is a table query of its measures by its levels, read without regard to the wish for a count.
Every column of the reply becomes a measure of the chart with series of its own, and rows only add
values to the series that are there. The count that the query puts on columns is one of these
columns.

Main statement: the measures of a chart are those asked for exactly if no count is
(`chart_measures_requested_iff`). Where a count is asked for, it is the last measure of the chart
(`chart_shows_count`).
-/

namespace CubeQuery.Report

/-- The measures of a chart are those of its columns, and it has a group for each of them. -/
theorem measures_of_chart? {c : Cellset} {chart : Chart} (h : chart? c = .ok chart) :
    ∃ columns, c.columnAxis? = .ok columns ∧ measureNames? columns.tuples = .ok chart.measures ∧
      ∀ name, name ∈ chart.data ↔ name ∈ chart.measures := by
  obtain ⟨columns, rows, hchartable⟩ := exists_isChartable_of_eq_ok h
  obtain ⟨data, hchart, hdata, -⟩ := chart?_eq_ok hchartable
  cases h.symm.trans hchart
  exact ⟨columns, columnAxis?_eq_ok_iff.2 hchartable.columnAxis,
    measureNames?_eq_ok_iff.2 ⟨hchartable.measures, rfl⟩, hdata⟩

end CubeQuery.Report

namespace CubeQuery.Session

open Cellset (Axis Cell)
open Mdx (Level CalculatedMember)
open Plan (tableStatement? tableText?)
open Report (Chart)
open Request (Options ChartConfig)

/-- **A chart has the measures asked for exactly if no count is.** The measures of a chart, for each
of which it has series, are those asked for in their order and the count behind them where one is
asked for. -/
theorem chart_measures_requested_iff {σ : Type} {cube : Cube (StateM σ)} {config : ChartConfig}
    {options : Options} {text : String} {statement : Mdx.Statement} {s : σ} {c : Cellset}
    {columns rows : Axis} {names : List String} {chart : Chart}
    (htext : tableText? cube.name (config.query options) = .ok text)
    (hstatement : tableStatement? cube.name (config.query options) = .ok statement)
    (hanswer : ((cube.transport text).run s).1 = .ok c)
    (hanswered : statement.AnsweredBy c columns rows names)
    (hchart : ((cube.chart config options).run s).1 = .ok chart) :
    chart.measures = config.measures.map Level.name ++ Plan.countNames options ∧
    (∀ name, name ∈ chart.data ↔ name ∈ chart.measures) ∧
    (chart.measures = config.measures.map Level.name ↔ options.requestsTotalCount = false) ∧
    (CalculatedMember.totalCount.text ∈ chart.measures ↔ options.requestsTotalCount = true) := by
  have hperform := @Call.perform_of_answer σ cube (.chart config options) text s c htext hanswer
  obtain ⟨columns', hcolumns, hmeasures, hdata⟩ :=
    Report.measures_of_chart? (hperform.symm.trans hchart)
  cases hanswered.columnAxis?_eq.symm.trans hcolumns
  cases hanswered.measureNames?_eq.symm.trans hmeasures
  -- A chart has a level on rows, so that its columns are neither sorted nor paged.
  obtain ⟨set, hset, hlists⟩ := Plan.lists_tableStatement_iff rfl (List.cons_ne_nil _ _) hstatement
  obtain ⟨set', hset', hlisted⟩ := hanswered.listed
  cases hset.symm.trans hset'
  have hnames : chart.measures = config.measures.map Level.name ++ Plan.countNames options :=
    (hlists _).1 hlisted
  have hcount : CalculatedMember.totalCount.text ∉ config.measures.map Level.name := by
    intro hmem
    obtain ⟨level, hlevel, heq⟩ := List.mem_map.1 hmem
    exact Plan.ne_totalCount_of_tableStatement? hstatement level
      (List.mem_append_left _ hlevel) heq
  refine ⟨hnames, hdata, ?_, ?_⟩
  · rw [hnames, List.append_right_eq_self, Plan.countNames_eq_nil_iff]
  · rw [hnames, List.mem_append, or_iff_right hcount, Plan.mem_countNames_iff, and_iff_left rfl]

/-- Sales by year. -/
private def salesByYear : ChartConfig :=
  .ofAxis [⟨"[Measures].[Sales]"⟩] ⟨"[Date].[Year]"⟩

/-- One year and its cells without values, one for each of some measures. -/
private def yearUnder (measures : List String) : Cellset :=
  ⟨[⟨measures.map fun name => ⟨[⟨true, ⟨name⟩, 0, none, none⟩]⟩⟩,
      ⟨[⟨[⟨false, ⟨"[Date].[Year]"⟩, 1, none, some (.text "2000")⟩]⟩]⟩],
    (measures.map fun _ => Cell.empty).toArray⟩

/-- The statement of a chart of sales is answered by a year under its measures. -/
private theorem answeredBy_yearUnder (options : Options) {statement : Mdx.Statement}
    (h : tableStatement? "Sales" (salesByYear.query options) = .ok statement) :
    ∃ columns rows,
      statement.AnsweredBy (yearUnder ("[Measures].[Sales]" :: Plan.countNames options))
        columns rows ("[Measures].[Sales]" :: Plan.countNames options) := by
  obtain ⟨set, hset, hlists⟩ := Plan.lists_tableStatement_iff rfl (List.cons_ne_nil _ _) h
  refine ⟨_, _, rfl, ⟨set, hset, (hlists _).2 rfl⟩, ?_⟩
  rw [List.forall₂_map_left_iff]
  exact List.forall₂_same.2 fun name _ => ⟨_, rfl, rfl⟩

/-- A chart is read from a year under some measures, which are its measures. -/
private theorem exists_chart_yearUnder (options : Options) {text : String}
    (h : tableText? "Sales" (salesByYear.query options) = .ok text) (measures : List String) :
    ∃ chart, (((Cube.answering "Sales" (yearUnder measures)).chart salesByYear options).run ()).1 =
      .ok chart ∧ chart.measures = measures := by
  have hread := @Call.perform_of_answer Unit (Cube.answering "Sales" (yearUnder measures))
    (.chart salesByYear options) text () (yearUnder measures) h rfl
  have hchartable : Report.IsChartable (yearUnder measures)
      ⟨measures.map fun name => ⟨[⟨true, ⟨name⟩, 0, none, none⟩]⟩⟩
      ⟨[⟨[⟨false, ⟨"[Date].[Year]"⟩, 1, none, some (.text "2000")⟩]⟩]⟩ := by
    refine ⟨rfl, rfl, ?_, ?_, ?_⟩
    · intro tuple htuple
      obtain ⟨name, -, rfl⟩ := List.mem_map.1 htuple
      nofun
    · intro tuple htuple
      rw [List.mem_singleton.1 htuple]
      nofun
    · simp [yearUnder]
  obtain ⟨data, hchart, -⟩ := Report.chart?_eq_ok hchartable
  refine ⟨_, hread.trans hchart, ?_⟩
  rw [Report.columnNames, List.filterMap_map]
  exact List.filterMap_some

/-- A chart of sales without a count has the sales only. -/
theorem sales_chart_has_sales : ∃ chart,
    (((Cube.answering "Sales" (yearUnder ["[Measures].[Sales]"])).chart salesByYear
      .none).run ()).1 = .ok chart ∧
    chart.measures = ["[Measures].[Sales]"] ∧
    ∀ name, name ∈ chart.data ↔ name = "[Measures].[Sales]" := by
  obtain ⟨columns, rows, hanswered⟩ := answeredBy_yearUnder .none rfl
  obtain ⟨chart, hchart, -⟩ := exists_chart_yearUnder .none rfl ["[Measures].[Sales]"]
  obtain ⟨hmeasures, hdata, -, -⟩ := @chart_measures_requested_iff Unit
    (Cube.answering "Sales" (yearUnder ["[Measures].[Sales]"])) salesByYear .none _ _ ()
    (yearUnder ["[Measures].[Sales]"]) _ _ _ _ rfl rfl rfl hanswered hchart
  refine ⟨chart, hchart, hmeasures, fun name => ?_⟩
  rw [hdata, hmeasures]
  exact List.mem_singleton

/-- A count that is asked for becomes a measure of the chart. -/
theorem chart_shows_count : ∃ text statement columns rows chart,
    tableText? "Sales" (salesByYear.query Options.none.counting) = .ok text ∧
    tableStatement? "Sales" (salesByYear.query Options.none.counting) = .ok statement ∧
    statement.AnsweredBy
      (yearUnder ["[Measures].[Sales]", CalculatedMember.totalCount.text]) columns rows
      ["[Measures].[Sales]", CalculatedMember.totalCount.text] ∧
    (((Cube.answering "Sales" (yearUnder ["[Measures].[Sales]",
      CalculatedMember.totalCount.text])).chart salesByYear Options.none.counting).run ()).1 =
        .ok chart ∧
    chart.measures = ["[Measures].[Sales]", CalculatedMember.totalCount.text] ∧
    chart.measures ≠ salesByYear.measures.map Level.name := by
  obtain ⟨columns, rows, hanswered⟩ := answeredBy_yearUnder Options.none.counting rfl
  obtain ⟨chart, hchart, hmeasures⟩ := exists_chart_yearUnder Options.none.counting rfl
    ["[Measures].[Sales]", CalculatedMember.totalCount.text]
  exact ⟨_, _, columns, rows, chart, rfl, rfl, hanswered, hchart, hmeasures,
    by rw [hmeasures]; decide⟩

end CubeQuery.Session
