import CubeQuery.Proofs.Report.ChartAlignment

set_option autoImplicit false

/-!
# Selecting from charts

A choice among the measures or the series of a chart shortens a list of names and leaves the data of
the chart and its x axis alone. Every name that is still there is therefore still a name of the
data, whatever has been chosen before.

Main statement: after any choices the series are found one by one and point by point, and both ways
show the series of the whole chart (`selectors_agree`).
-/

namespace CubeQuery.Report

open Cellset (Tuple Axis)

/-! ## Choices -/

/-- A choice among the measures or among the series of a chart. -/
inductive Selection where
  | measures (keep : String → Bool)
  | series (keep : String → Bool)

namespace Selection

/-- Whether a measure outlasts a choice. -/
def keepsMeasure : Selection → String → Bool
  | measures keep, measure => keep measure
  | series _, _ => true

/-- Whether a series outlasts a choice. -/
def keepsSeries : Selection → String → Bool
  | measures _, _ => true
  | series keep, name => keep name

end Selection

namespace Chart

/-- The chart after a choice. -/
def select (chart : Chart) : Selection → Chart
  | .measures keep => chart.keepMeasures keep
  | .series keep => chart.keepSeries keep

/-- The chart after some choices, one behind the other. -/
def selectAll (chart : Chart) (selections : List Selection) : Chart :=
  selections.foldl select chart

theorem select_eq (chart : Chart) (selection : Selection) : chart.select selection =
    { chart with measures := chart.measures.filter selection.keepsMeasure,
                 seriesNames := chart.seriesNames.filter selection.keepsSeries } := by
  cases selection with
  | measures keep =>
    have hall : chart.seriesNames.filter (Selection.measures keep).keepsSeries =
        chart.seriesNames := List.filter_eq_self.2 fun _ _ => rfl
    rw [hall]
    rfl
  | series keep =>
    have hall : chart.measures.filter (Selection.series keep).keepsMeasure = chart.measures :=
      List.filter_eq_self.2 fun _ _ => rfl
    rw [hall]
    rfl

/-- Choices keep the names that outlast each of them, and the rest of a chart. -/
theorem selectAll_eq (chart : Chart) (selections : List Selection) : chart.selectAll selections =
    { chart with
      measures := chart.measures.filter fun measure =>
        selections.all fun selection => selection.keepsMeasure measure,
      seriesNames := chart.seriesNames.filter fun name =>
        selections.all fun selection => selection.keepsSeries name } := by
  induction selections generalizing chart with
  | nil =>
    have hall : ∀ names : List String, names.filter (fun _ => true) = names :=
      fun names => List.filter_eq_self.2 fun _ _ => rfl
    simp only [List.all_nil, hall]
    rfl
  | cons selection rest ih =>
    -- What outlasts the first choice and then the others outlasts all of them.
    rw [selectAll, List.foldl_cons, ← selectAll, ih, select_eq]
    simp only [List.filter_filter, List.all_cons, Bool.and_comm]

/-! ## Series of a selection -/

/-- A chart in whose data every selected measure has every selected series. -/
def Offers (chart : Chart) (series : String → String → Series) : Prop :=
  ∀ measure ∈ chart.measures, ∃ group, chart.group? measure = .ok group ∧
    ∀ name ∈ chart.seriesNames, group.series? name = .ok (series measure name)

section Offers

variable {chart : Chart} {series : String → String → Series}

theorem Offers.selectAll (h : chart.Offers series) (selections : List Selection) :
    (chart.selectAll selections).Offers series := by
  rw [selectAll_eq]
  intro measure hmeasure
  obtain ⟨group, hgroup, hseries⟩ := h measure (List.mem_filter.1 hmeasure).1
  exact ⟨group, hgroup, fun name hname => hseries name (List.mem_filter.1 hname).1⟩

theorem Offers.series?_eq_ok (h : chart.Offers series) {measure name : String}
    (hmeasure : measure ∈ chart.measures) (hname : name ∈ chart.seriesNames) :
    chart.series? measure (some name) = .ok (series measure name) := by
  obtain ⟨group, hgroup, hseries⟩ := h measure hmeasure
  exact (bind_of_eq_ok hgroup).trans (hseries name hname)

/-- Series are found one by one, measure by measure. -/
theorem Offers.mapSeries?_eq_ok (h : chart.Offers series) {α : Type}
    (f : String → String → Series → α) : chart.mapSeries? f =
      .ok (chart.measures.flatMap fun measure =>
        chart.seriesNames.map fun name => f measure name (series measure name)) := by
  rw [List.flatMap_def, mapSeries?]
  refine bind_of_eq_ok (mapM_eq_ok_map fun measure hmeasure => ?_)
  obtain ⟨group, hgroup, hseries⟩ := h measure hmeasure
  refine (bind_of_eq_ok hgroup).trans (mapM_eq_ok_map fun name hname => ?_)
  rw [hseries name hname]
  rfl

/-- Series are found point by point, one name after another. -/
theorem Offers.zipSeries?_eq_ok (h : chart.Offers series) {α : Type}
    (f : String → List String → List (List (Option Float)) → α) : chart.zipSeries? f =
      .ok (chart.seriesNames.map fun name => f name chart.measures
        ((List.range chart.xAxis.length).map fun i =>
          chart.measures.map fun measure => (series measure name)[i]?.join)) := by
  refine mapM_eq_ok_map fun name hname => ?_
  refine (bind_of_eq_ok (mapM_eq_ok_map fun measure hmeasure =>
    h.series?_eq_ok hmeasure hname)).trans ?_
  simp only [List.map_map, Function.comp_def]

end Offers

end Chart

/-- A chart that is read from a reply offers its series. -/
theorem exists_offers_of_chart? {c : Cellset} {chart : Chart} (h : chart? c = .ok chart) :
    ∃ series, chart.Offers series := by
  obtain ⟨columns, rows, -, hmade⟩ := exists_isMadeOf_of_chart? h
  refine ⟨fun measure name => ((xGroups rows.tuples).flatMap (groupColumn c (columnNames columns)
    (seriesNamesOf rows.tuples) measure name)).toArray, fun measure hmeasure => ?_⟩
  rw [hmade.measures] at hmeasure
  have hseries : ∀ name ∈ seriesNamesOf rows.tuples, chart.series? measure (some name) =
      .ok ((xGroups rows.tuples).flatMap (groupColumn c (columnNames columns)
        (seriesNamesOf rows.tuples) measure name)).toArray :=
    fun name hname => (hmade.series measure name _).2 ⟨hmeasure, hname, rfl⟩
  -- There is a series of some name, hence a group for the measure.
  obtain ⟨name, hname⟩ := List.exists_mem_of_ne_nil _ (seriesNamesOf_ne_nil rows.tuples)
  obtain ⟨group, hgroup, -⟩ := steps_of_bind_eq_ok (hseries name hname)
  refine ⟨group, hgroup, fun name hname => ?_⟩
  rw [hmade.seriesNames] at hname
  exact (bind_of_eq_ok hgroup).symm.trans (hseries name hname)

/-- The series names of a chart are in order. -/
theorem sorted_seriesNames_of_chart? {c : Cellset} {chart : Chart} (h : chart? c = .ok chart) :
    chart.seriesNames.Pairwise (· < ·) := by
  obtain ⟨columns, rows, -, hmade⟩ := exists_isMadeOf_of_chart? h
  rw [hmade.seriesNames]
  exact sorted_seriesNamesOf _

/-- **Selectors agree.** After any choices, the series of a chart are found one by one, measure by
measure and within a measure by sorted names, and point by point, name by name. Either way shows the
series of the whole chart: the points of a name have at each place of the x axis the entries that
the series of that name and of the kept measures have there, or nothing where one is shorter. -/
theorem selectors_agree {c : Cellset} {chart : Chart} (h : chart? c = .ok chart)
    (selections : List Selection) : ∃ series : String → String → Series,
    (∀ measure ∈ chart.measures, ∀ name ∈ chart.seriesNames,
      chart.series? measure (some name) = .ok (series measure name)) ∧
    (chart.selectAll selections).measures = (chart.measures.filter fun measure =>
      selections.all fun selection => selection.keepsMeasure measure) ∧
    (chart.selectAll selections).seriesNames = (chart.seriesNames.filter fun name =>
      selections.all fun selection => selection.keepsSeries name) ∧
    (chart.selectAll selections).seriesNames.Pairwise (· < ·) ∧
    (∀ (α : Type) (f : String → String → Series → α), (chart.selectAll selections).mapSeries? f =
      .ok ((chart.selectAll selections).measures.flatMap fun measure =>
        (chart.selectAll selections).seriesNames.map fun name =>
          f measure name (series measure name))) ∧
    ∀ (α : Type) (f : String → List String → List (List (Option Float)) → α),
      (chart.selectAll selections).zipSeries? f =
        .ok ((chart.selectAll selections).seriesNames.map fun name =>
          f name (chart.selectAll selections).measures
            ((List.range chart.xAxis.length).map fun i =>
              (chart.selectAll selections).measures.map fun measure =>
                (series measure name)[i]?.join)) := by
  obtain ⟨series, hoffers⟩ := exists_offers_of_chart? h
  have hkept := hoffers.selectAll selections
  have hxAxis : (chart.selectAll selections).xAxis = chart.xAxis := by rw [Chart.selectAll_eq]
  have hnames : (chart.selectAll selections).seriesNames = chart.seriesNames.filter fun name =>
      selections.all fun selection => selection.keepsSeries name := by rw [Chart.selectAll_eq]
  refine ⟨series, fun _ hmeasure _ hname => hoffers.series?_eq_ok hmeasure hname,
    by rw [Chart.selectAll_eq], hnames, ?_, fun α f => hkept.mapSeries?_eq_ok f, fun α f => ?_⟩
  · rw [hnames]
    exact (sorted_seriesNames_of_chart? h).filter _
  · rw [← hxAxis]
    exact hkept.zipSeries?_eq_ok f

/-- The cities of one year. -/
private def yearRows : Axis :=
  ⟨["Oslo", "Rome"].map fun city => ⟨[⟨false, ⟨"[Date].[Year]"⟩, 1, none, some (.text "FY19")⟩,
    ⟨false, ⟨"[Geo].[City]"⟩, 1, some city, none⟩]⟩⟩

/-- Sales and cost of cities in one year. -/
private def salesInYear : Cellset :=
  ⟨[⟨["[Measures].[Sales]", "[Measures].[Cost]"].map fun name =>
      ⟨[⟨true, ⟨name⟩, 0, none, none⟩]⟩⟩, yearRows],
    ([1, 2, 3, 4].map fun number => ⟨some (.number number), none⟩).toArray⟩

private theorem seriesNamesOf_yearRows : seriesNamesOf yearRows.tuples = ["Oslo", "Rome"] := by
  have hsorted : sortedNames (yearRows.tuples.map seriesNameOf) = ["Oslo", "Rome"] :=
    List.mergeSort_of_pairwise (by decide)
  rw [seriesNamesOf, hsorted]
  rfl

/-- The cost of a city is found either way once the other measure and city have been dropped. -/
theorem selectors_agree_on_cost : ∃ chart series, chart? salesInYear = .ok chart ∧
    chart.series? "[Measures].[Cost]" (some "Rome") = .ok series ∧
    (chart.selectAll [.series (· != "Oslo"), .measures (· == "[Measures].[Cost]")]).mapSeries?
      (fun measure name series => (measure, name, series)) =
        .ok [("[Measures].[Cost]", "Rome", series)] ∧
    (chart.selectAll [.series (· != "Oslo"), .measures (· == "[Measures].[Cost]")]).zipSeries?
      (fun name measures points => (name, measures, points)) =
        .ok [("Rome", ["[Measures].[Cost]"], [[series[0]?.join]])] := by
  have hchartable : IsChartable salesInYear _ yearRows :=
    ⟨rfl, rfl, by decide, by decide, by decide⟩
  obtain ⟨chart, hchart, hmade⟩ := hchartable.exists_isMadeOf
  have hnames := hmade.seriesNames
  have hmeasures := hmade.measures
  have hxAxis := hmade.xAxis
  rw [seriesNamesOf_yearRows] at hnames
  obtain ⟨series, hseries, hkept, hkeptNames, -, hmap, hzip⟩ := selectors_agree hchart
    [.series (· != "Oslo"), .measures (· == "[Measures].[Cost]")]
  rw [hmeasures] at hkept
  rw [hnames] at hkeptNames
  refine ⟨chart, series "[Measures].[Cost]" "Rome", hchart, ?_, ?_, ?_⟩
  · apply hseries
    · rw [hmeasures]
      decide
    · rw [hnames]
      decide
  · rw [hmap, hkept, hkeptNames]
    rfl
  · rw [hzip, hkept, hkeptNames, hxAxis]
    rfl

end CubeQuery.Report
