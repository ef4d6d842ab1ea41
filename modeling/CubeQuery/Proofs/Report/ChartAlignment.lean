import CubeQuery.Proofs.Report.ChartSeries

set_option autoImplicit false

/-!
# The alignment of charts

A group of rows brings a series one entry for each column of its measure and each row of the group
that belongs to the series, or for each such column a gap if no row does. A series is therefore
never shorter than the x axis. It is longer where a measure has several columns, a series has
several rows at one x value, or an x value returns after another one, since the x axis has each
value once.

Main statements: where none of this happens, a chart pivots the rows of its reply, with a gap for
each row that is missing (`chart_pivots_rows`). A chart with a measure and a row is aligned exactly
if none of this happens (`chart_aligned_iff`).
-/

namespace CubeQuery.Report

open Cellset (Tuple Axis)

/-! ## Columns of groups -/

/-- The number in a cell, if there is one. -/
def numberAt (c : Cellset) (index : Nat) : Option Float :=
  (c.cells[index]?.bind (·.value)).bind Value.toNumber?

theorem length_numbers (c : Cellset) (start count : Nat) :
    (numbers c start count).length = count := by
  rw [numbers, block, List.length_map, List.length_map, List.length_range]

theorem getElem?_numbers (c : Cellset) (start : Nat) {count offset : Nat} (h : offset < count) :
    (numbers c start count)[offset]? = some (numberAt c (start + offset)) := by
  rw [numbers, List.getElem?_map, getElem?_block c start h]
  rfl

theorem length_valuesUnder {measures : List String} {values : List (Option Float)}
    (h : values.length = measures.length) (measure : String) :
    (valuesUnder measures values measure).length = measures.count measure := by
  have hfst : (measures.zip values).map Prod.fst = measures := List.map_fst_zip h.ge
  calc (valuesUnder measures values measure).length
      = ((measures.zip values).filter fun cell => cell.1 == measure).length := List.length_map _
    _ = (measures.zip values).countP fun cell => cell.1 == measure :=
        (List.countP_eq_length_filter).symm
    _ = ((measures.zip values).map Prod.fst).countP fun name => name == measure := by
        rw [List.countP_map, Function.comp_def]
    _ = measures.count measure := by rw [hfst, List.count]

section Columns

variable (c : Cellset) (measures : List String) {names : List String} (measure name : String)
variable (group : List (Tuple × Nat))

theorem length_rowEntries (row : Tuple × Nat) :
    (rowEntries c measures measure name row).length =
      if name = seriesNameOf row.1 then measures.count measure else 0 := by
  rw [rowEntries]
  split
  · exact length_valuesUnder (length_numbers c _ _) measure
  · rfl

/-- The rows of a series bring an entry for each column of a measure. -/
theorem length_flatMap_rowEntries :
    (group.flatMap (rowEntries c measures measure name)).length =
      (seriesOf group).count name * measures.count measure := by
  induction group with
  | nil => exact (Nat.zero_mul _).symm
  | cons row rest ih =>
    rw [List.flatMap_cons, List.length_append, ih, length_rowEntries, seriesOf, seriesOf,
      List.map_cons, List.count_cons]
    by_cases hname : name = seriesNameOf row.1
    · rw [if_pos hname, if_pos (beq_iff_eq.2 hname.symm), Nat.succ_mul, Nat.add_comm]
    · rw [if_neg hname, if_neg (mt beq_iff_eq.1 (Ne.symm hname)), Nat.zero_add, Nat.add_zero]

/-- A series waits for one gap if no row of a group belongs to it. -/
theorem count_missingFrom (hnames : names.Nodup) (hname : name ∈ names) :
    (missingFrom names group).count name = if name ∈ seriesOf group then 0 else 1 := by
  rw [missingFrom]
  split
  · rename_i hfound
    rw [List.count_eq_zero, List.mem_filter, List.contains_iff_mem.2 hfound]
    exact fun h => Bool.false_ne_true h.2
  · rename_i hmissing
    rw [List.count_filter, List.count_eq_one_of_mem hnames hname]
    rw [Bool.not_eq_true', ← Bool.not_eq_true, List.contains_iff_mem]
    exact hmissing

/-- A group brings a series an entry for each column of its measure and each of its rows, of which
there counts one if there is none. -/
theorem length_groupColumn (hnames : names.Nodup) (hname : name ∈ names) :
    (groupColumn c measures names measure name group).length =
      max 1 ((seriesOf group).count name) * measures.count measure := by
  -- Either rows of the series or one gap, never both.
  rw [groupColumn, List.length_append, length_flatMap_rowEntries, gaps, List.length_replicate,
    count_missingFrom name group hnames hname, ← Nat.add_mul]
  congr 1
  split
  · rename_i hfound
    have hpos := List.count_pos_iff.2 hfound
    omega
  · rename_i hmissing
    rw [List.count_eq_zero.2 hmissing]
    rfl

variable {c measures measure name group}

/-- The number of a row in a column of a measure is among what its group brings its series. -/
theorem numberAt_mem_groupColumn {row : Tuple × Nat} {j : Nat} (hrow : row ∈ group)
    (hj : measures[j]? = some measure) :
    numberAt c (row.2 * measures.length + j) ∈
      groupColumn c measures names measure (seriesNameOf row.1) group := by
  have hlt : j < measures.length := (List.getElem?_eq_some_iff.1 hj).1
  have hcell : (measure, numberAt c (row.2 * measures.length + j)) ∈
      measures.zip (numbers c (row.2 * measures.length) measures.length) :=
    List.mem_of_getElem? (List.getElem?_zip_eq_some.2 ⟨hj, getElem?_numbers c _ hlt⟩)
  apply List.mem_append_left
  refine List.mem_flatMap.2 ⟨row, hrow, ?_⟩
  rw [rowEntries, if_pos rfl, valuesUnder]
  exact List.mem_map_of_mem (f := Prod.snd)
    (List.mem_filter.2 ⟨hcell, beq_self_eq_true measure⟩)

/-- A group without a row of a series brings it gaps only. -/
theorem eq_none_of_mem_groupColumn (h : name ∉ seriesOf group) {entry : Option Float}
    (hentry : entry ∈ groupColumn c measures names measure name group) : entry = none := by
  rcases List.mem_append.1 hentry with hvalue | hgap
  · obtain ⟨row, hrow, hvalue⟩ := List.mem_flatMap.1 hvalue
    have hother : name ≠ seriesNameOf row.1 := by
      rintro rfl
      exact h (List.mem_map_of_mem hrow)
    rw [rowEntries, if_neg hother] at hvalue
    cases hvalue
  · exact List.eq_of_mem_replicate hgap

end Columns

/-! ## Charts and their series -/

theorem entriesIn_eq_some_iff {data : Std.TreeMap String SeriesGroup} {measure name : String}
    {series : Series} : entriesIn data measure name = some series.toList ↔
      ∃ group, data[measure]? = some group ∧ group[name]? = some series := by
  simp only [entriesIn, Option.bind_eq_some_iff, Option.map_eq_some_iff, Array.toList_inj,
    exists_eq_right]

/-- The series of a chart are those that its data has entries for. -/
theorem Chart.series?_eq_ok_iff (chart : Chart) (measure name : String) (series : Series) :
    chart.series? measure (some name) = .ok series ↔
      entriesIn chart.data measure name = some series.toList := by
  rw [entriesIn_eq_some_iff, Chart.series?, Chart.group?]
  cases hgroup : chart.data[measure]? with
  | none => exact ⟨nofun, nofun⟩
  | some group =>
    change group.series? name = .ok series ↔ _
    rw [SeriesGroup.series?]
    cases hseries : group[name]? with
    | none =>
      refine ⟨nofun, ?_⟩
      rintro ⟨_, heq, hfound⟩
      cases heq
      rw [hseries] at hfound
      cases hfound
    | some found =>
      constructor
      · intro h
        cases h
        exact ⟨group, rfl, hseries⟩
      · rintro ⟨_, heq, hfound⟩
        cases heq
        rw [hseries] at hfound
        cases hfound
        rfl

/-- The chart of a reply: its names, its x axis and its series, made of columns of its groups. -/
structure Chart.IsMadeOf (chart : Chart) (c : Cellset) (columns rows : Axis) : Prop where
  measures : chart.measures = columnNames columns
  seriesNames : chart.seriesNames = seriesNamesOf rows.tuples
  xAxis : chart.xAxis = distinctValues ((xGroups rows.tuples).map groupValue)
  series : ∀ measure name series, chart.series? measure (some name) = .ok series ↔
    measure ∈ columnNames columns ∧ name ∈ seriesNamesOf rows.tuples ∧
      series.toList = (xGroups rows.tuples).flatMap
        (groupColumn c (columnNames columns) (seriesNamesOf rows.tuples) measure name)

theorem IsChartable.exists_isMadeOf {c : Cellset} {columns rows : Axis}
    (h : IsChartable c columns rows) :
    ∃ chart, chart? c = .ok chart ∧ chart.IsMadeOf c columns rows := by
  obtain ⟨data, hchart, -, hdata⟩ := chart?_eq_ok h
  refine ⟨_, hchart, rfl, rfl, rfl, fun measure name series => ?_⟩
  rw [Chart.series?_eq_ok_iff, hdata]
  split
  · rename_i hplace
    rw [Option.some_inj, eq_comm, and_iff_right hplace.1, and_iff_right hplace.2]
  · rename_i hplace
    exact ⟨nofun, fun hseries => absurd ⟨hseries.1, hseries.2.1⟩ hplace⟩

/-- A chart that is read from a reply is made of its groups. -/
theorem exists_isMadeOf_of_chart? {c : Cellset} {chart : Chart} (h : chart? c = .ok chart) :
    ∃ columns rows, IsChartable c columns rows ∧ chart.IsMadeOf c columns rows := by
  obtain ⟨columns, rows, hchartable⟩ := exists_isChartable_of_eq_ok h
  obtain ⟨_, hchart, hmade⟩ := hchartable.exists_isMadeOf
  cases h.symm.trans hchart
  exact ⟨columns, rows, hchartable, hmade⟩

/-! ## Aligned charts -/

/-- Every series of every measure has an entry for each place on the x axis. -/
def Chart.IsAligned (chart : Chart) : Prop :=
  ∀ measure name series, chart.series? measure (some name) = .ok series →
    series.size = chart.xAxis.length

/-- Columns of different measures, and rows in groups of different x values and, within a group, of
different series. -/
structure IsLaidOut (columns rows : Axis) : Prop where
  measures : (columnNames columns).Nodup
  places : AreDistinct ((xGroups rows.tuples).map groupValue)
  series : ∀ group ∈ xGroups rows.tuples, (seriesOf group).Nodup

section Lengths

variable {α β : Type} {f : α → List β} {xs : List α}

theorem length_le_length_flatMap (h : ∀ x ∈ xs, 1 ≤ (f x).length) :
    xs.length ≤ (xs.flatMap f).length := by
  induction xs with
  | nil => exact Nat.le_refl 0
  | cons x rest ih =>
    obtain ⟨hx, hrest⟩ := List.forall_mem_cons.1 h
    have hlength := ih hrest
    rw [List.flatMap_cons, List.length_append, List.length_cons]
    omega

/-- Pieces that are not empty have one element each if there are as many elements as pieces. -/
theorem length_flatMap_eq_iff (h : ∀ x ∈ xs, 1 ≤ (f x).length) :
    (xs.flatMap f).length = xs.length ↔ ∀ x ∈ xs, (f x).length = 1 := by
  induction xs with
  | nil => exact iff_of_true rfl nofun
  | cons x rest ih =>
    obtain ⟨hx, hrest⟩ := List.forall_mem_cons.1 h
    have hlength := length_le_length_flatMap hrest
    rw [List.flatMap_cons, List.length_append, List.length_cons, List.forall_mem_cons, ← ih hrest]
    omega

end Lengths

section Aligned

variable {c : Cellset} {columns rows : Axis} {chart : Chart}

theorem nodup_seriesNamesOf (tuples : List Tuple) : (seriesNamesOf tuples).Nodup := by
  refine (sorted_seriesNamesOf tuples).imp ?_
  rintro a _ hlt rfl
  exact String.lt_irrefl a hlt

theorem seriesNamesOf_ne_nil (tuples : List Tuple) : seriesNamesOf tuples ≠ [] := by
  cases tuples with
  | nil =>
    exact List.ne_nil_of_mem (a := defaultSeries) ((mem_seriesNamesOf_iff _ _).2 (.inr ⟨rfl, rfl⟩))
  | cons tuple rest =>
    exact List.ne_nil_of_mem ((mem_seriesNamesOf_iff _ _).2 (.inl List.mem_cons_self))

theorem mem_seriesNamesOf_of_mem_seriesOf {tuples : List Tuple} {group : List (Tuple × Nat)}
    (hgroup : group ∈ xGroups tuples) {name : String} (hname : name ∈ seriesOf group) :
    name ∈ seriesNamesOf tuples := by
  obtain ⟨row, hrow, rfl⟩ := List.mem_map.1 hname
  have hmem := (sublist_of_mem_xGroups hgroup).subset hrow
  exact (mem_seriesNamesOf_iff _ _).2
    (.inl (List.mem_map_of_mem (List.fst_mem_of_mem_zipIdx hmem)))

/-- Every group brings a series of a measure at least one entry. -/
theorem one_le_length_groupColumn {measures : List String} {measure name : String}
    (hmeasure : measure ∈ measures) (hname : name ∈ seriesNamesOf rows.tuples)
    (group : List (Tuple × Nat)) : 1 ≤
      (groupColumn c measures (seriesNamesOf rows.tuples) measure name group).length := by
  rw [length_groupColumn c measures measure name group (nodup_seriesNamesOf _) hname]
  exact Nat.mul_pos (Nat.le_max_left 1 _) (List.count_pos_iff.2 hmeasure)

namespace Chart.IsMadeOf

theorem xAxis_length_le (h : chart.IsMadeOf c columns rows) :
    chart.xAxis.length ≤ (xGroups rows.tuples).length := by
  have hle := (distinctValues_sublist ((xGroups rows.tuples).map groupValue)).length_le
  rwa [List.length_map, ← h.xAxis] at hle

/-- No series is shorter than the x axis. -/
theorem xAxis_length_le_size (h : chart.IsMadeOf c columns rows) {measure name : String}
    {series : Series} (hseries : chart.series? measure (some name) = .ok series) :
    chart.xAxis.length ≤ series.size := by
  obtain ⟨hmeasure, hname, hentries⟩ := (h.series measure name series).1 hseries
  rw [← Array.length_toList, hentries]
  exact h.xAxis_length_le.trans (length_le_length_flatMap fun group _ =>
    one_le_length_groupColumn hmeasure hname group)

/-- A series has one entry for each place on the x axis exactly if the x axis has a place for each
group, and each group brings the series one entry. -/
theorem size_eq_iff (h : chart.IsMadeOf c columns rows) {measure name : String} {series : Series}
    (hseries : chart.series? measure (some name) = .ok series) :
    series.size = chart.xAxis.length ↔
      AreDistinct ((xGroups rows.tuples).map groupValue) ∧
      ∀ group ∈ xGroups rows.tuples,
        max 1 ((seriesOf group).count name) * (columnNames columns).count measure = 1 := by
  obtain ⟨hmeasure, hname, hentries⟩ := (h.series measure name series).1 hseries
  have hone : ∀ group ∈ xGroups rows.tuples, 1 ≤ (groupColumn c (columnNames columns)
      (seriesNamesOf rows.tuples) measure name group).length :=
    fun group _ => one_le_length_groupColumn hmeasure hname group
  have hsize : (xGroups rows.tuples).length ≤ series.size := by
    rw [← Array.length_toList, hentries]
    exact length_le_length_flatMap hone
  have hplaces : chart.xAxis.length = (xGroups rows.tuples).length ↔
      AreDistinct ((xGroups rows.tuples).map groupValue) := by
    rw [h.xAxis, ← length_distinctValues_eq_iff, List.length_map]
  have hentry : series.size = (xGroups rows.tuples).length ↔ ∀ group ∈ xGroups rows.tuples,
      max 1 ((seriesOf group).count name) * (columnNames columns).count measure = 1 := by
    rw [← Array.length_toList, hentries, length_flatMap_eq_iff hone]
    refine forall₂_congr fun group _ => ?_
    rw [length_groupColumn c _ measure name group (nodup_seriesNamesOf _) hname]
  -- There are at most as many places as groups, and at least as many entries.
  rw [← hplaces, ← hentry]
  have hle := h.xAxis_length_le
  omega

/-- A series of each measure and each name is there. -/
theorem exists_series (h : chart.IsMadeOf c columns rows) {measure name : String}
    (hmeasure : measure ∈ columnNames columns) (hname : name ∈ seriesNamesOf rows.tuples) :
    ∃ series, chart.series? measure (some name) = .ok series :=
  ⟨⟨_⟩, (h.series measure name ⟨_⟩).2 ⟨hmeasure, hname, rfl⟩⟩

/-- A chart with a measure and a row is aligned exactly if its reply is laid out. -/
theorem isAligned_iff (h : chart.IsMadeOf c columns rows) (hcolumns : columnNames columns ≠ [])
    (hrows : rows.tuples ≠ []) : chart.IsAligned ↔ IsLaidOut columns rows := by
  constructor
  · intro haligned
    -- Groups, measures and series are all there, so that each condition is seen at some series.
    have hall : ∀ measure ∈ columnNames columns, ∀ name ∈ seriesNamesOf rows.tuples,
        AreDistinct ((xGroups rows.tuples).map groupValue) ∧
        ∀ group ∈ xGroups rows.tuples,
          max 1 ((seriesOf group).count name) * (columnNames columns).count measure = 1 := by
      intro measure hmeasure name hname
      obtain ⟨series, hseries⟩ := h.exists_series hmeasure hname
      exact (h.size_eq_iff hseries).1 (haligned measure name series hseries)
    obtain ⟨measure, hmeasure⟩ := List.exists_mem_of_ne_nil _ hcolumns
    obtain ⟨name, hname⟩ := List.exists_mem_of_ne_nil _ (seriesNamesOf_ne_nil rows.tuples)
    obtain ⟨group, hgroup⟩ := List.exists_mem_of_ne_nil _ (mt (xGroups_eq_nil_iff _).1 hrows)
    refine ⟨List.nodup_iff_count_eq_one.2 fun m hm => ?_, (hall measure hmeasure name hname).1,
      fun g hg => List.nodup_iff_count_eq_one.2 fun t ht => ?_⟩
    · exact Nat.eq_one_of_mul_eq_one_left ((hall m hm name hname).2 group hgroup)
    · have hmax := Nat.eq_one_of_mul_eq_one_right
        ((hall measure hmeasure t (mem_seriesNamesOf_of_mem_seriesOf hg ht)).2 g hg)
      have hpos := List.count_pos_iff.2 ht
      omega
  · intro hlaid measure name series hseries
    obtain ⟨hmeasure, -, -⟩ := (h.series measure name series).1 hseries
    refine (h.size_eq_iff hseries).2 ⟨hlaid.places, fun group hgroup => ?_⟩
    have hcount := List.nodup_iff_count_le_one.1 (hlaid.series group hgroup) name
    rw [List.count_eq_one_of_mem hlaid.measures hmeasure, Nat.mul_one]
    omega

end Chart.IsMadeOf

end Aligned

/-! ## Pivoted rows -/

/-- A reply with a chart, of different measures, in which rows of one x value are adjacent and of
different series, and no x value is the empty text. -/
structure IsPivotable (c : Cellset) (columns rows : Axis) : Prop
    extends IsChartable c columns rows where
  distinct : (columnNames columns).Nodup
  adjacent : ∀ a b d, [a, b, d].Sublist rows.tuples →
    Value.sameOption (xOf a) (xOf d) = true → Value.sameOption (xOf a) (xOf b) = true
  noEmptyText : ∀ tuple ∈ rows.tuples, xOf tuple ≠ some (.text "")
  series : rows.tuples.Pairwise fun a b =>
    Value.sameOption (xOf a) (xOf b) = true → seriesNameOf a ≠ seriesNameOf b

/-- What a series has at a group of rows: the number that the row of the series has in the column of
the measure, or nothing if no row of the group belongs to the series. -/
structure IsEntry (c : Cellset) (width column : Nat) (name : String) (group : List (Tuple × Nat))
    (entry : Option Float) : Prop where
  present : ∀ row ∈ group, seriesNameOf row.1 = name →
    entry = numberAt c (row.2 * width + column)
  absent : (∀ row ∈ group, seriesNameOf row.1 ≠ name) → entry = none

/-- The chart of the rows of a reply. It has a place on the x axis for each group of adjacent rows
of one x value, the names of all series of rows in order, and in each series an entry for each
group. -/
structure Chart.Pivots (chart : Chart) (c : Cellset) (columns rows : Axis) : Prop where
  measures : chart.measures = columnNames columns
  xAxis : chart.xAxis = (xGroups rows.tuples).map groupValue
  sorted : chart.seriesNames.Pairwise (· < ·)
  seriesNames : ∀ name, name ∈ chart.seriesNames ↔
    name ∈ rows.tuples.map seriesNameOf ∨ rows.tuples = [] ∧ name = defaultSeries
  series : ∀ (j : Nat) (measure name : String), chart.measures[j]? = some measure →
    name ∈ chart.seriesNames → ∃ series, chart.series? measure (some name) = .ok series ∧
      List.Forall₂ (IsEntry c chart.measures.length j name) (xGroups rows.tuples) series.toList

section Pivoted

variable {c : Cellset} {columns rows : Axis}

/-- Pieces of one element each stand beside what they come from. -/
theorem forall₂_flatMap {α β : Type} {R : α → β → Prop} {f : α → List β} {xs : List α}
    (h : ∀ x ∈ xs, ∃ y, f x = [y] ∧ R x y) : List.Forall₂ R xs (xs.flatMap f) := by
  induction xs with
  | nil => exact .nil
  | cons x rest ih =>
    obtain ⟨⟨y, hy, hxy⟩, hrest⟩ := List.forall_mem_cons.1 h
    rw [List.flatMap_cons, hy]
    exact .cons hxy (ih hrest)

namespace IsPivotable

/-- The rows of a group are of different series. -/
theorem nodup_seriesOf (h : IsPivotable c columns rows) {group : List (Tuple × Nat)}
    (hgroup : group ∈ xGroups rows.tuples) : (seriesOf group).Nodup := by
  have hrows : (group.map Prod.fst).Sublist rows.tuples := by
    have hsub := (sublist_of_mem_xGroups hgroup).map Prod.fst
    rwa [List.zipIdx_map_fst] at hsub
  have hdiffer := h.series.sublist hrows
  rw [List.pairwise_map] at hdiffer
  rw [seriesOf, List.Nodup, List.pairwise_map]
  exact (hdiffer.and (pairwise_sameX_of_mem_xGroups hgroup)).imp fun h => h.1 h.2

theorem isLaidOut (h : IsPivotable c columns rows) : IsLaidOut columns rows where
  measures := h.distinct
  places := pairwise_groupValues h.adjacent h.noEmptyText
  series _ := h.nodup_seriesOf

/-- A group brings each series its entry. -/
theorem exists_entry (h : IsPivotable c columns rows) {j : Nat} {measure name : String}
    (hj : (columnNames columns)[j]? = some measure) (hname : name ∈ seriesNamesOf rows.tuples)
    {group : List (Tuple × Nat)} (hgroup : group ∈ xGroups rows.tuples) :
    ∃ entry, groupColumn c (columnNames columns) (seriesNamesOf rows.tuples) measure name group =
        [entry] ∧ IsEntry c (columnNames columns).length j name group entry := by
  have hone : (groupColumn c (columnNames columns) (seriesNamesOf rows.tuples) measure name
      group).length = 1 := by
    have hcount := List.nodup_iff_count_le_one.1 (h.nodup_seriesOf hgroup) name
    rw [length_groupColumn c _ measure name group (nodup_seriesNamesOf _) hname,
      List.count_eq_one_of_mem h.distinct (List.mem_of_getElem? hj), Nat.mul_one]
    omega
  -- The number of a row of the series is that entry, since it is among the entries of the group.
  obtain ⟨entry, hentry⟩ := List.length_eq_one_iff.1 hone
  refine ⟨entry, hentry, ?_, fun hmissing => ?_⟩
  · rintro row hrow rfl
    have hmem : numberAt c (row.2 * (columnNames columns).length + j) ∈ groupColumn c
        (columnNames columns) (seriesNamesOf rows.tuples) measure (seriesNameOf row.1) group :=
      numberAt_mem_groupColumn hrow hj
    rw [hentry, List.mem_singleton] at hmem
    exact hmem.symm
  · refine eq_none_of_mem_groupColumn (fun hname => ?_) (hentry ▸ List.mem_cons_self)
    obtain ⟨row, hrow, heq⟩ := List.mem_map.1 hname
    exact hmissing row hrow heq

end IsPivotable

end Pivoted

/-- **A chart pivots the rows of its reply and fills the gaps.** A chart is read from a reply in
which rows of one x value are adjacent and of different series. Its x axis has the x values of the
groups of rows, and each of its series has for each of them the number of the row that belongs to
the series, or a gap if there is none. -/
theorem chart_pivots_rows {c : Cellset} {columns rows : Axis} (h : IsPivotable c columns rows) :
    ∃ chart, chart? c = .ok chart ∧ chart.Pivots c columns rows := by
  obtain ⟨chart, hchart, hmade⟩ := h.toIsChartable.exists_isMadeOf
  refine ⟨chart, hchart, hmade.measures, ?_, ?_, ?_, ?_⟩
  · rw [hmade.xAxis, distinctValues_eq_self_iff]
    exact h.isLaidOut.places
  · rw [hmade.seriesNames]
    exact sorted_seriesNamesOf _
  · rw [hmade.seriesNames]
    exact mem_seriesNamesOf_iff _
  · intro j measure name hj hname
    rw [hmade.seriesNames] at hname
    rw [hmade.measures] at hj ⊢
    obtain ⟨series, hseries⟩ := hmade.exists_series (List.mem_of_getElem? hj) hname
    refine ⟨series, hseries, ?_⟩
    rw [((hmade.series measure name series).1 hseries).2.2]
    exact forall₂_flatMap fun group hgroup => h.exists_entry hj hname hgroup

/-- Columns of measures. -/
private def columnsOf (measures : List String) : Axis :=
  ⟨measures.map fun name => ⟨[⟨true, ⟨name⟩, 0, none, none⟩]⟩⟩

/-- A row of a city in a year, which may be missing. -/
private def cityIn (year : Option String) (city : String) : Tuple :=
  ⟨[⟨false, ⟨"[Date].[Year]"⟩, 1, none, year.map .text⟩,
    ⟨false, ⟨"[Geo].[City]"⟩, 1, some city, none⟩]⟩

/-- Cells with numbers or without values. -/
private def cellsOf (numbers : List (Option Float)) : Array Cellset.Cell :=
  (numbers.map fun number => ⟨number.map .number, none⟩).toArray

/-- Two cities, of which only one has a row without a year. -/
private def cityRows : Axis :=
  ⟨[cityIn (some "FY19") "Rome", cityIn (some "FY19") "Oslo", cityIn none "Oslo"]⟩

/-- Sales and cost of cities. -/
private def cities : Cellset :=
  ⟨[columnsOf ["[Measures].[Sales]", "[Measures].[Cost]"], cityRows],
    cellsOf [some 1, some 2, some 3, none, some 5, some 6]⟩

private theorem isPivotable_cities :
    IsPivotable cities (columnsOf ["[Measures].[Sales]", "[Measures].[Cost]"]) cityRows := by
  refine ⟨⟨rfl, rfl, by decide, by decide, by decide⟩, by decide, ?_, ?_, by decide⟩
  · intro a b d hsub hsame
    cases hsub.eq_of_length rfl
    cases hsame
  · simp [cityRows, cityIn, xOf]

/-- The cost of cities is read with a gap where a city has no row, or no value in its row. -/
theorem chart_pivots_cities : ∃ chart, chart? cities = .ok chart ∧
    chart.xAxis = [.text "FY19", .text ""] ∧
    chart.series? "[Measures].[Cost]" (some "Rome") = .ok #[some 2, none] ∧
    chart.series? "[Measures].[Cost]" (some "Oslo") = .ok #[none, some 6] := by
  obtain ⟨chart, hchart, hpivots⟩ := chart_pivots_rows isPivotable_cities
  have hcost : chart.measures[1]? = some "[Measures].[Cost]" := by
    rw [hpivots.measures]
    rfl
  have hgroups : xGroups cityRows.tuples =
      [[(cityIn (some "FY19") "Rome", 0), (cityIn (some "FY19") "Oslo", 1)],
        [(cityIn none "Oslo", 2)]] := rfl
  have hentries : ∀ city ∈ cityRows.tuples.map seriesNameOf, ∃ first second,
      chart.series? "[Measures].[Cost]" (some city) = .ok #[first, second] ∧
      IsEntry cities 2 1 city [(cityIn (some "FY19") "Rome", 0), (cityIn (some "FY19") "Oslo", 1)]
        first ∧
      IsEntry cities 2 1 city [(cityIn none "Oslo", 2)] second := by
    intro city hcity
    obtain ⟨⟨entries⟩, hseries, hentries⟩ := hpivots.series 1 _ city hcost
      ((hpivots.seriesNames city).2 (.inl hcity))
    rw [hpivots.measures, hgroups] at hentries
    obtain ⟨first, rest, hfirst, hrest, rfl⟩ := List.forall₂_cons_left_iff.1 hentries
    obtain ⟨second, others, hsecond, hothers, rfl⟩ := List.forall₂_cons_left_iff.1 hrest
    obtain rfl := List.forall₂_nil_left_iff.1 hothers
    exact ⟨first, second, hseries, hfirst, hsecond⟩
  refine ⟨chart, hchart, hpivots.xAxis, ?_, ?_⟩
  · obtain ⟨first, second, hseries, hfirst, hsecond⟩ := hentries "Rome" (by decide)
    rw [hseries, hfirst.present _ List.mem_cons_self rfl, hsecond.absent (by decide)]
    rfl
  · obtain ⟨first, second, hseries, hfirst, hsecond⟩ := hentries "Oslo" (by decide)
    rw [hseries, hfirst.present _ (List.mem_cons_of_mem _ List.mem_cons_self) rfl,
      hsecond.present _ List.mem_cons_self rfl]
    rfl

/-! ## Alignment -/

/-- **A chart is aligned exactly if its reply is laid out.** No series of a chart is shorter than
the x axis. Unless a chart has no measure or no row, all of its series are as long as the x axis
exactly if its columns are of different measures, no x value returns after another one, and no
series has two rows at one x value. -/
theorem chart_aligned_iff {c : Cellset} {chart : Chart} (h : chart? c = .ok chart) :
    ∃ columns rows, c.axes[0]? = some columns ∧ c.axes[1]? = some rows ∧
      (∀ measure name series, chart.series? measure (some name) = .ok series →
        chart.xAxis.length ≤ series.size) ∧
      (chart.IsAligned ↔ columns.tuples = [] ∨ rows.tuples = [] ∨ IsLaidOut columns rows) := by
  obtain ⟨columns, rows, hchartable, hmade⟩ := exists_isMadeOf_of_chart? h
  refine ⟨columns, rows, hchartable.columnAxis, hchartable.rowAxis,
    fun _ _ _ => hmade.xAxis_length_le_size, ?_⟩
  have hcolumns : columnNames columns = [] ↔ columns.tuples = [] := by
    rw [← List.length_eq_zero_iff, length_columnNames hchartable.measures, List.length_eq_zero_iff]
  rw [← hcolumns]
  by_cases hmeasures : columnNames columns = []
  · -- Without measures there are no series.
    refine iff_of_true (fun measure name series hseries => ?_) (.inl hmeasures)
    obtain ⟨hmeasure, -, -⟩ := (hmade.series measure name series).1 hseries
    rw [hmeasures] at hmeasure
    cases hmeasure
  by_cases hrows : rows.tuples = []
  · -- Without rows there are series, but neither places nor entries.
    refine iff_of_true (fun measure name series hseries => ?_) (.inr (.inl hrows))
    obtain ⟨-, -, hentries⟩ := (hmade.series measure name series).1 hseries
    rw [← Array.length_toList, hentries, hmade.xAxis, (xGroups_eq_nil_iff _).2 hrows]
    rfl
  · rw [hmade.isAligned_iff hmeasures hrows, or_iff_right hmeasures, or_iff_right hrows]

/-- Cities in different rows of a year give an aligned chart. -/
theorem chart_aligned_cities : ∃ chart, chart? cities = .ok chart ∧ chart.IsAligned := by
  obtain ⟨chart, hchart, -⟩ := isPivotable_cities.toIsChartable.exists_isMadeOf
  obtain ⟨columns, rows, hcolumns, hrows, -, haligned⟩ := chart_aligned_iff hchart
  cases hcolumns
  cases hrows
  exact ⟨chart, hchart, haligned.2 (.inr (.inr isPivotable_cities.isLaidOut))⟩

/-- A year that returns after another one. -/
private def returningRows : Axis :=
  ⟨[cityIn (some "FY19") "Rome", cityIn (some "FY20") "Rome", cityIn (some "FY19") "Oslo"]⟩

/-- Sales of cities, in the order of the sales. -/
private def returningYear : Cellset :=
  ⟨[columnsOf ["[Measures].[Sales]"], returningRows], cellsOf [some 3, some 2, some 1]⟩

/-- The x axis has a year once when it returns, but each series has an entry for each time. -/
theorem chart_of_returning_year : ∃ chart series, chart? returningYear = .ok chart ∧
    chart.xAxis = [.text "FY19", .text "FY20"] ∧
    chart.series? "[Measures].[Sales]" (some "Rome") = .ok series ∧ series.size = 3 ∧
    ¬ chart.IsAligned := by
  have hchartable : IsChartable returningYear (columnsOf ["[Measures].[Sales]"]) returningRows :=
    ⟨rfl, rfl, by decide, by decide, by decide⟩
  obtain ⟨chart, hchart, hmade⟩ := hchartable.exists_isMadeOf
  have hrome : "Rome" ∈ seriesNamesOf returningRows.tuples :=
    (mem_seriesNamesOf_iff _ _).2 (.inl (by decide))
  have hsales : "[Measures].[Sales]" ∈ columnNames (columnsOf ["[Measures].[Sales]"]) := by decide
  obtain ⟨series, hseries⟩ := hmade.exists_series hsales hrome
  have hsize : series.size = 3 := by
    obtain ⟨-, -, hentries⟩ := (hmade.series _ _ _).1 hseries
    rw [← Array.length_toList, hentries]
    refine (length_flatMap_eq_iff fun group _ => one_le_length_groupColumn hsales hrome group).2 ?_
    simp only [length_groupColumn _ _ _ _ _ (nodup_seriesNamesOf _) hrome]
    decide
  -- Two places on the axis face three entries.
  refine ⟨chart, series, hchart, hmade.xAxis, hseries, hsize, fun haligned => ?_⟩
  have hlength := haligned _ _ _ hseries
  rw [hsize, hmade.xAxis] at hlength
  cases hlength

end CubeQuery.Report
