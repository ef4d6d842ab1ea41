import CubeQuery.Report.Table

set_option autoImplicit false

/-!
# Charts

A table pivoted into series. The first member of a row gives the place on the x axis, the caption
of the second member the series. Whenever the x value changes from one row to the next, every series
that the last value had no row for gets a gap. That keeps the series aligned where rows of one x
value are adjacent.
-/

namespace CubeQuery.Report

open Cellset (Tuple)

/-- The values of one series, along the x axis. -/
abbrev Series := Array (Option Float)

/-- Series by name. -/
abbrev SeriesGroup := Std.TreeMap String Series

/-- A chart: a group of series for every measure, and the x axis they run along. -/
structure Chart where
  data : Std.TreeMap String SeriesGroup
  measures : List String
  seriesNames : List String
  xAxis : List Value

/-- The name of the series of rows without a group. -/
def defaultSeries : String := "default"

/-- The series that a row belongs to. -/
def seriesNameOf (tuple : Tuple) : String :=
  match tuple.members[1]?.bind (·.caption) with
  | some caption => if caption.isEmpty then defaultSeries else caption
  | none => defaultSeries

/-- Values without those that are the same as an earlier one. -/
def distinctValues (values : List Value) : List Value :=
  values.foldl (fun found x => if found.any (·.same x) then found else found ++ [x]) []

/-- Names in order and without repeats. -/
def sortedNames (names : List String) : List String :=
  names.eraseDups.mergeSort fun a b => decide (a ≤ b)

/-- The names of the series of rows, or the default one if there are no rows. -/
def seriesNamesOf (tuples : List Tuple) : List String :=
  let occurring := sortedNames (tuples.map seriesNameOf)
  if occurring.isEmpty then [defaultSeries] else occurring

/-- The data of a chart without values: a group with all series for every measure. -/
def emptyData (measures names : List String) : Std.TreeMap String SeriesGroup :=
  let group := names.foldl (fun group name => group.insert name #[]) (∅ : SeriesGroup)
  measures.foldl (fun data measure => data.insert measure group) ∅

/--
Adds a value, given with its measure, to the series of a name. The group of the measure and the
series in it must be there.
-/
def addValue? (name : String) (data : Std.TreeMap String SeriesGroup)
    (cell : String × Option Float) : Except Error (Std.TreeMap String SeriesGroup) :=
  match data[cell.1]? with
  | none => .error (.invalidResponse (.unpreparedMeasure cell.1))
  | some group =>
    match group[name]? with
    | none => .error (.invalidResponse (.unpreparedSeries name))
    | some series => .ok (data.insert cell.1 (group.insert name (series.push cell.2)))

/-- Adds one value to the series of a name for each measure, in the order of the measures. -/
def addValues? (measures : List String) (name : String) (values : List (Option Float))
    (data : Std.TreeMap String SeriesGroup) : Except Error (Std.TreeMap String SeriesGroup) :=
  (measures.zip values).foldlM (addValue? name) data

/-- Adds a gap to each of the named series. -/
def addGaps? (measures names : List String) (data : Std.TreeMap String SeriesGroup) :
    Except Error (Std.TreeMap String SeriesGroup) :=
  names.foldlM (fun data name => addValues? measures name (measures.map fun _ => none) data) data

/-- A chart under construction: its data, and the series without a row at the current x value. -/
structure Pivot where
  data : Std.TreeMap String SeriesGroup
  waiting : List String
  current : Option (Option Value)

namespace Pivot

/-- Goes on to the x value of a row. If it is a new one, there are gaps for the last one. -/
def turnTo? (measures names : List String) (x : Option Value) (p : Pivot) : Except Error Pivot :=
  if p.current.any fun last => !Value.sameOption last x then do
    .ok ⟨← addGaps? measures p.waiting p.data, names, some x⟩
  else .ok { p with current := some x }

/-- Adds the values of a row to its series, which waits no longer. -/
def put? (measures : List String) (name : String) (values : List (Option Float)) (p : Pivot) :
    Except Error Pivot := do
  .ok { p with data := ← addValues? measures name values p.data,
               waiting := p.waiting.filter (· != name) }

/-- Adds the row of a tuple, whose cells are the next ones. -/
def addRow? (c : Cellset) (measures names : List String) (p : Pivot) (tuple : Tuple) :
    CellReader Pivot := do
  let member ← tuple.firstMember?
  let p ← p.turnTo? measures names member.value
  let values ← nextValues? c measures.length
  p.put? measures (seriesNameOf tuple) (values.map fun value => value.bind Value.toNumber?)

end Pivot

/-- The chart of a cellset. -/
def chart? (c : Cellset) : Except Error Chart := do
  let columns := (← c.columnAxis?).tuples
  let tuples := (← c.rowAxis?).tuples
  let xs ← tuples.mapM fun tuple => tuple.firstMember?.map (·.value)
  let names := seriesNamesOf tuples
  let measures ← measureNames? columns
  let pivot ← (tuples.foldlM (Pivot.addRow? c measures names)
    ⟨emptyData measures names, names, none⟩).run' 0
  let data ←
    (if tuples.isEmpty then .ok pivot.data else addGaps? measures pivot.waiting pivot.data)
  .ok ⟨data, measures, names, distinctValues (xs.map fun x => x.getD (.text ""))⟩

/-! ## Selecting from a chart -/

/-- The series of a name in a group. -/
def SeriesGroup.series? (group : SeriesGroup) (name : String) : Except Error Series :=
  match group[name]? with
  | some series => .ok series
  | none =>
    .error (.invalidResponse (if name = defaultSeries then .noDefaultSeries else .noSeries name))

namespace Chart

/-- The group of series of a measure. -/
def group? (chart : Chart) (measure : String) : Except Error SeriesGroup :=
  match chart.data[measure]? with
  | some group => .ok group
  | none => .error (.invalidResponse (.unknownMeasure measure))

/-- The series of a measure with a name, or its default series. -/
def series? (chart : Chart) (measure : String) (name : Option String) : Except Error Series := do
  (← chart.group? measure).series? (name.getD defaultSeries)

/-- The chart with only those measures selected that satisfy `p`. -/
def keepMeasures (p : String → Bool) (chart : Chart) : Chart :=
  { chart with measures := chart.measures.filter p }

/-- The chart with only those series selected whose names satisfy `p`. -/
def keepSeries (p : String → Bool) (chart : Chart) : Chart :=
  { chart with seriesNames := chart.seriesNames.filter p }

/-- A result for every selected measure and series, measure by measure. -/
def mapSeries? {α : Type} (chart : Chart) (f : String → String → Series → α) :
    Except Error (List α) := do
  let results ← chart.measures.mapM fun measure => do
    let group ← chart.group? measure
    chart.seriesNames.mapM fun name => (group.series? name).map (f measure name)
  .ok results.flatten

/--
A result for every selected series name, from its points: for each place on the x axis the values of
the selected measures there.
-/
def zipSeries? {α : Type} (chart : Chart)
    (f : String → List String → List (List (Option Float)) → α) : Except Error (List α) :=
  chart.seriesNames.mapM fun name => do
    let series ← chart.measures.mapM fun measure => chart.series? measure (some name)
    let points := (List.range chart.xAxis.length).map fun i => series.map fun s => s[i]?.join
    .ok (f name chart.measures points)

end Chart

/-- A value of a series in JSON. -/
def jsonOfPoint (x : Option Float) : Json :=
  .ofOption (fun x => (Value.number x).toJson) x

/-- A group of series in JSON. -/
def SeriesGroup.toJson (group : SeriesGroup) : Json :=
  .object (group.toList.map fun (name, series) => (name, .ofList jsonOfPoint series.toList))

/-- A chart in JSON. -/
def Chart.toJson (chart : Chart) : Json :=
  .object [("data", .object (chart.data.toList.map fun (name, group) => (name, group.toJson))),
    ("measures", .ofList .text chart.measures),
    ("seriesNames", .ofList .text chart.seriesNames),
    ("xAxis", .ofList Value.toJson chart.xAxis)]

end CubeQuery.Report
