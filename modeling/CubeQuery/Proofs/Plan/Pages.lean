import CubeQuery.Proofs.Plan.DimensionCount

set_option autoImplicit false

/-!
# The pages of a dimension query

A page is a slice of the sorted set, taken before that set is projected to the attributes, while the
row count counts what is left after projecting. Offsets and count agree where every row is made of a
single tuple of the sorted set. Measures and levels that are only sorted by multiply tuples: two
measures make two tuples of each row.

Main statements: where rows are made of one tuple each, the pages that start before the row count
make up the rows of the query, each row once (`pages_enumerate_rows`); with two measures a row comes
on two pages and another one on none (`pages_repeat_first_city`).
-/

namespace CubeQuery.Plan

open Mdx (Level SetExpr Statement NamedSet Reading Server OrderedServer Tuple Fact Facts RangeOver
  crossed)
open Request (Options DimensionQuery)

/-! ## Slices -/

section Slices

variable {β : Type}

/-- The number of pages that start before a total. -/
def pageCount (size total : Nat) : Nat :=
  (total + size - 1) / size

theorem lt_pageCount_iff {size : Nat} (h : 0 < size) (total index : Nat) :
    index < pageCount size total ↔ index * size < total := by
  rw [pageCount, Nat.lt_div_iff_mul_lt h]
  omega

/-- A list is made up of its slices. -/
theorem flatMap_slices_eq {size : Nat} (h : 0 < size) (list : List β) :
    ((List.range (pageCount size list.length)).flatMap fun index =>
      (list.drop (index * size)).take size) = list := by
  -- By induction on the number of slices: together they are a front part of the list.
  have hfront : ∀ count, ((List.range count).flatMap fun index =>
      (list.drop (index * size)).take size) = list.take (count * size) := by
    intro count
    induction count with
    | zero => simp
    | succ count ih =>
      rw [List.range_succ, List.flatMap_append, ih, Nat.succ_mul, List.take_add]
      simp
  -- The slice behind the last one would start behind the end of the list.
  have hend : ¬ pageCount size list.length < pageCount size list.length := Nat.lt_irrefl _
  rw [lt_pageCount_iff h, Nat.not_lt] at hend
  rw [hfront, List.take_of_length_le hend]

end Slices

variable {α : Type}

/-! ## Products with a single tuple -/

theorem length_crossed (first second : List (Tuple α)) :
    (crossed first second).length = first.length * second.length := by
  rw [crossed, List.length_map, List.length_product]

/-- What follows the attributes in a product does not make one row of two tuples if it is a single
tuple at most. -/
theorem nodup_at_crossed {levels : List Level} {first second : List (Tuple α)}
    (hlevels : levels.Nodup) (hrange : RangeOver levels first) (hfirst : first.Nodup)
    (hsecond : second.length ≤ 1) :
    ((crossed first second).map fun tuple => tuple.at levels).Nodup := by
  cases second with
  | nil =>
    have hempty : crossed first [] = [] := by
      simp [Mdx.crossed_eq_flatMap]
    rw [hempty]
    exact List.nodup_nil
  | cons tuple rest =>
    obtain rfl : rest = [] := by
      rw [List.length_cons] at hsecond
      exact List.length_eq_zero_iff.1 (by omega)
    have hcrossed : crossed first [tuple] = first.map fun a => a ++ tuple := by
      rw [Mdx.crossed_eq_flatMap, List.map_eq_flatMap]
      rfl
    have hback : (crossed first [tuple]).map (fun whole => whole.at levels) = first.map id := by
      rw [hcrossed, List.map_map]
      apply List.map_congr_left
      intro a ha
      exact Mdx.at_append hlevels (hrange a ha) tuple
    rw [hback, List.map_id]
    exact hfirst

theorem length_span_le_one {reading : Reading α} {split : FilterSplit} {levels : List Level}
    (h : ∀ level ∈ levels, (reading.tuples (split.levelSet level)).length ≤ 1) :
    (span reading split levels).length ≤ 1 := by
  induction levels with
  | nil => exact Nat.le_refl 1
  | cons level rest ih =>
    rw [List.forall_mem_cons] at h
    have hproduct := Nat.mul_le_mul h.1 (ih h.2)
    rw [← length_crossed] at hproduct
    exact hproduct

/-! ## Defined sets -/

section Defined

variable (server : Server α)

theorem tuples_dimensionColumns (statement : Statement) (query : DimensionQuery) (rows : SetExpr)
    (counted : Option SetExpr) (name : NamedSet) :
    (server.reading (dimensionColumns statement query rows counted).1.definitions).tuples
        (setNamed name) =
      (server.reading statement.definitions).tuples (setNamed name) := by
  rw [dimensionColumns]
  cases query.options.requestsTotalCount with
  | false => rfl
  | true => exact server.tuples_defineMember statement .totalCount _ _ name

variable (cube : String) (query : DimensionQuery) (split : FilterSplit) (attributes : SetExpr)
  (counted : Option SetExpr)

/-- The sets of a statement are those that it defines before its columns. -/
theorem tuples_dimensionStatement (name : NamedSet) :
    (server.reading (dimensionStatement cube query split attributes counted).definitions).tuples
        (setNamed name) =
      (server.reading (flaggedRows ((Statement.ofCube cube).defineSet NamedSet.attributes.text
        attributes) query).1.definitions).tuples (setNamed name) :=
  tuples_dimensionColumns server _ query _ counted name

/-- The attributes of a statement are the set that it defines first. -/
theorem tuples_attributes :
    (server.reading (dimensionStatement cube query split attributes counted).definitions).tuples
        (setNamed .attributes) =
      (server.reading (Statement.ofCube cube).definitions).tuples attributes := by
  have hstart := server.tuples_defineSet_self (Statement.ofCube cube) .attributes attributes
  rw [tuples_dimensionStatement, flaggedRows, ← hstart]
  cases query.measures with
  | nil => exact server.tuples_defineMember _ .isNonEmpty _ _ .attributes
  | cons first rest =>
    have hne : NamedSet.attributes ≠ NamedSet.measures := by decide
    exact (server.tuples_defineMember _ .isNonEmpty _ _ .attributes).trans
      (server.tuples_defineSet_of_ne _ hne _)

end Defined

/-! ## Rows of one tuple -/

/-- No two tuples of the set that is sorted and paged make the same row. -/
def MakesDistinctRows (reading : Reading α) (query : DimensionQuery) : Prop :=
  ((reading.tuples (selectedRows query)).map fun tuple => tuple.at query.attributes).Nodup

theorem nodup_at_sort {reading : Reading α} {query : DimensionQuery}
    (h : MakesDistinctRows reading query) :
    ((reading.tuples (query.options.sort (selectedRows query))).map fun tuple =>
      tuple.at query.attributes).Nodup := by
  have hsorted := (reading.tuples_sort_perm query.options (selectedRows query)).map
    fun tuple => tuple.at query.attributes
  exact hsorted.nodup_iff.2 h

/-- Besides its attributes a query ranges over one measure at most, and over levels with one member
at most. -/
structure IsThin (server : Server α) (query : DimensionQuery) : Prop where
  measures : query.measures.length ≤ 1
  foreign : ∀ level ∈ foreignLevels query.attributes query.options,
    (server.members level (filterOn level query.options.filters).includeAll).length ≤ 1

variable [DecidableEq α] (server : OrderedServer α)

theorem length_tuples_measures (cube : String) (query : DimensionQuery) (split : FilterSplit)
    (attributes : SetExpr) (counted : Option SetExpr) (h : query.measures ≠ []) :
    ((server.reading (dimensionStatement cube query split attributes counted).definitions).tuples
      (setNamed .measures)).length = query.measures.length := by
  rw [tuples_dimensionStatement, flaggedRows]
  cases hmeasures : query.measures with
  | nil => exact absurd hmeasures h
  | cons first rest =>
    generalize hstart : (Statement.ofCube cube).defineSet NamedSet.attributes.text attributes
      = start
    have hdefined : (server.reading (defineFlag (start.defineSet NamedSet.measures.text
        (.measures first rest)) nonEmptyFlag.expr).definitions).tuples (setNamed .measures) =
        (server.reading start.definitions).tuples (.measures first rest) :=
      (server.tuples_defineMember _ .isNonEmpty _ _ .measures).trans
        (server.tuples_defineSet_self _ .measures _)
    exact (congrArg List.length hdefined).trans (server.length_tuples_measures _ first rest)

theorem tuples_selectRows_sublist (definitions : List Mdx.Definition)
    (selection : Request.MemberSelection) (rows : SetExpr) :
    ((server.reading definitions).tuples (selectRows selection rows)).Sublist
      ((server.reading definitions).tuples rows) := by
  cases selection with
  | all => exact .refl _
  | empty => exact server.tuples_filter_sublist definitions rows _
  | nonEmpty => exact server.tuples_filter_sublist definitions rows _

/-- A thin query makes each row of one tuple. -/
theorem makesDistinctRows_of_isThin {cube : String} {query : DimensionQuery}
    {statement : Statement} (h : dimensionStatement? cube query = .ok statement)
    (hthin : IsThin server.toServer query) :
    MakesDistinctRows (server.reading statement.definitions) query := by
  obtain ⟨split, attributes, counted, hsplit, hattributes, -, rfl⟩ :=
    steps_of_dimensionStatement? h
  have hdistinct := ((splitDimension?_decides query).1.1 ⟨split, hsplit⟩).2.1.distinct
  have hbetween := eq_between_of_splitDimension? hsplit
  generalize hstart : (Statement.ofCube cube).definitions = start
  -- The product of the attributes comes first, that of everything else is a single tuple at most.
  have hrange := rangeOver_span (server.reading start) split query.attributes
  have hnodup : (span (server.reading start) split query.attributes).Nodup := by
    apply nodup_span
    intro level _
    exact nodup_tuples_levelSet hbetween start (server.nodup_members level _)
  have hforeign : (span (server.reading start) split
      (foreignLevels query.attributes query.options)).length ≤ 1 := by
    apply length_span_le_one
    intro level hlevel
    rw [tuples_levelSet server.toServer hbetween, List.length_map]
    exact hthin.foreign level hlevel
  have hnamed : (server.reading (dimensionStatement cube query split attributes
      counted).definitions).tuples (setNamed .attributes) =
      crossed (span (server.reading start) split query.attributes)
        (span (server.reading start) split (foreignLevels query.attributes query.options)) := by
    rw [tuples_attributes, hstart, tuples_of_levelsSet? _ split hattributes, queriedLevels,
      span_append]
  rw [MakesDistinctRows, selectedRows]
  cases hmeasures : query.measures with
  | nil =>
    change (((server.reading _).tuples (setNamed .attributes)).map _).Nodup
    rw [hnamed]
    exact nodup_at_crossed hdistinct hrange hnodup hforeign
  | cons first rest =>
    refine List.Nodup.sublist ((tuples_selectRows_sublist server _ _ _).map _) ?_
    have hmeasured := length_tuples_measures server cube query split attributes counted
      (hmeasures ▸ List.cons_ne_nil first rest)
    have hmeasure := hthin.measures
    rw [← hmeasured] at hmeasure
    have hone := Nat.mul_le_mul hforeign hmeasure
    rw [← length_crossed] at hone
    -- The measure joins the further levels behind the attributes.
    rw [Reading.tuples_crossJoin, List.map_cons, List.map_singleton, Mdx.products,
      Mdx.products_singleton, hnamed, Mdx.crossed_assoc]
    exact nodup_at_crossed hdistinct hrange hnodup hone

/-- A query whose rows range over its attributes alone is thin. -/
theorem isThin_of_isWidened_eq_false {query : DimensionQuery} (h : isWidened query = false) :
    IsThin server.toServer query := by
  rw [isWidened, Bool.or_eq_false_iff, Bool.not_eq_false', Bool.not_eq_false', List.isEmpty_iff,
    List.isEmpty_iff] at h
  obtain ⟨hforeign, hmeasures⟩ := h
  refine ⟨?_, ?_⟩
  · rw [hmeasures]
    exact Nat.zero_le 1
  · rw [hforeign]
    exact nofun

/-! ## Pages -/

/-- The rows that are made of some tuples. -/
def rowsOf (query : DimensionQuery) (tuples : List (Tuple α)) : List (Tuple α) :=
  if isWidened query then (tuples.map fun tuple => tuple.at query.attributes).eraseDups else tuples

theorem tuples_projected (definitions : List Mdx.Definition) (query : DimensionQuery)
    (set : SetExpr) :
    (server.reading definitions).tuples (projected query set) =
      rowsOf query ((server.reading definitions).tuples set) := by
  rw [projected, rowsOf]
  cases isWidened query with
  | false => rfl
  | true => exact server.tuples_extract definitions set query.attributes

/-- Tuples that make distinct rows make one row each. -/
theorem rowsOf_slice {query : DimensionQuery} {tuples : List (Tuple α)}
    (h : (tuples.map fun tuple => tuple.at query.attributes).Nodup) (skip top : Nat) :
    rowsOf query ((tuples.drop skip).take top) = ((rowsOf query tuples).drop skip).take top := by
  rw [rowsOf, rowsOf]
  cases isWidened query with
  | false => rfl
  | true =>
    have hslice := (List.take_sublist top _).trans (List.drop_sublist skip tuples)
    have hpage := h.sublist (hslice.map fun tuple => tuple.at query.attributes)
    rw [if_pos rfl, if_pos rfl, Mdx.eraseDups_of_nodup h, Mdx.eraseDups_of_nodup hpage,
      List.map_take, List.map_drop]

theorem nodup_rowsOf {query : DimensionQuery} {tuples : List (Tuple α)}
    (h : isWidened query = false → tuples.Nodup) : (rowsOf query tuples).Nodup := by
  rw [rowsOf]
  cases hwidened : isWidened query with
  | false => exact h hwidened
  | true => exact Mdx.nodup_eraseDups _

/-- The slices of some tuples make the rows that these tuples make, some perhaps more than once. -/
theorem eraseDups_rowsOf_slices {query : DimensionQuery} {tuples : List (Tuple α)}
    (h : isWidened query = false → tuples.Nodup) {size : Nat} (hsize : 0 < size) :
    ((List.range (pageCount size tuples.length)).flatMap fun index =>
      rowsOf query ((tuples.drop (index * size)).take size)).eraseDups = rowsOf query tuples := by
  have hslices := flatMap_slices_eq hsize tuples
  simp only [rowsOf]
  cases hwidened : isWidened query with
  | false =>
    simp only [Bool.false_eq_true, if_false]
    rw [hslices, Mdx.eraseDups_of_nodup (h hwidened)]
  | true =>
    -- Each slice is rid of its own repeats only; those between slices go with the rest.
    simp only [if_true]
    rw [Mdx.eraseDups_flatMap_eraseDups, ← List.map_flatMap, hslices]

/-- The statement of one page. -/
def pageStatement? (cube : String) (query : DimensionQuery) (size : UInt64) (index : Nat) :
    Except Error Statement :=
  dimensionStatement? cube (query.onPage (some (.ofNat (index * size.toNat))) (some size))

/-- The pages that start before a total exist and have the given rows. -/
def ArePages (server : Server α) (cube : String) (query : DimensionQuery) (size : UInt64)
    (total : Nat) (pages : Nat → List (Tuple α)) : Prop :=
  ∀ index, index * size.toNat < total →
    ∃ page, pageStatement? cube query size index = .ok page ∧
      server.rows? page = some (pages index)

/-- The pages that start before a total have the given rows between them. No page has a row
twice. -/
def PagesCover (server : Server α) (cube : String) (query : DimensionQuery) (size : UInt64)
    (total : Nat) (rows : List (Tuple α)) : Prop :=
  ∃ pages, ArePages server cube query size total pages ∧ (∀ index, (pages index).Nodup) ∧
    ((List.range (pageCount size.toNat total)).flatMap pages).eraseDups = rows

/-- The pages that start before a total are together the given rows. -/
def PagesMakeUp (server : Server α) (cube : String) (query : DimensionQuery) (size : UInt64)
    (total : Nat) (rows : List (Tuple α)) : Prop :=
  ∃ pages, ArePages server cube query size total pages ∧
    (List.range (pageCount size.toNat total)).flatMap pages = rows

/-- A page has the rows that a slice of the sorted tuples makes. -/
theorem arePages_slices {cube : String} {query : DimensionQuery} {statement : Statement}
    (h : dimensionStatement? cube query = .ok statement) {size : UInt64} {total : Nat}
    (htotal : total ≤ UInt64.size) :
    ArePages server.toServer cube query size total fun index =>
      rowsOf query ((((server.reading statement.definitions).tuples
        (query.options.sort (selectedRows query))).drop (index * size.toNat)).take
          size.toNat) := by
  intro index hindex
  have hword : (UInt64.ofNat (index * size.toNat)).toNat = index * size.toNat :=
    UInt64.toNat_ofNat_of_lt' (Nat.lt_of_lt_of_le hindex htotal)
  obtain ⟨page, hpage, hdefinitions, hrows⟩ :=
    dimensionStatement?_onPage h (some (.ofNat (index * size.toNat))) (some size)
  have hslice := server.tuples_subset statement.definitions
    (query.options.sort (selectedRows query)) (.ofNat (index * size.toNat)) size
  rw [hword] at hslice
  refine ⟨page, hpage, ?_⟩
  change server.rows? page = some (rowsOf query _)
  rw [Server.rows?, hrows, hdefinitions, ← hslice, ← tuples_projected]
  rfl

/-- **The pages of a dimension query enumerate its rows.** A page is a slice of the tuples from
which the rows are projected, so that the pages of all these tuples have every row between them, in
the order of the rows. If no two of the tuples make the same row, as in a query of one measure that
sorts by nothing besides it and its attributes, then the pages that start before the row count are
together the rows without a page, each once. -/
theorem pages_enumerate_rows {cube : String} {query : DimensionQuery} {statement : Statement}
    (h : dimensionStatement? cube query = .ok statement)
    (hcount : query.options.requestsTotalCount = true) (hwhole : CountsWholeRows query) :
    ∃ unpaged total rows, dimensionStatement? cube (query.onPage none none) = .ok unpaged ∧
      server.total? statement = some total ∧ server.rows? unpaged = some rows ∧ rows.Nodup ∧
      (∀ size : UInt64, 0 < size →
        ((server.reading statement.definitions).tuples (selectedRows query)).length ≤
          UInt64.size →
        PagesCover server.toServer cube query size
          ((server.reading statement.definitions).tuples (selectedRows query)).length rows) ∧
      (IsThin server.toServer query →
        MakesDistinctRows (server.reading statement.definitions) query) ∧
      (MakesDistinctRows (server.reading statement.definitions) query →
        ∀ size : UInt64, 0 < size → total ≤ UInt64.size →
          PagesMakeUp server.toServer cube query size total rows) := by
  obtain ⟨unpaged, hunpaged, hrows⟩ := rows?_of_unpaged server.toServer h
  have htotal := total?_of_countsWholeRows server.toServer h hcount hwhole
  have hthin := makesDistinctRows_of_isThin server h
  -- Where nothing is projected the tuples are the rows, and the query is thin.
  have hplain : isWidened query = false → ((server.reading statement.definitions).tuples
      (query.options.sort (selectedRows query))).Nodup := by
    intro hwidened
    exact (nodup_at_sort (hthin (isThin_of_isWidened_eq_false server hwidened))).of_map
  rw [tuples_projected] at hrows htotal
  refine ⟨unpaged, _, _, hunpaged, htotal, hrows, nodup_rowsOf hplain, ?_, hthin, ?_⟩
  · intro size hsize hwords
    have hpositive : 0 < size.toNat := hsize
    have hcover := eraseDups_rowsOf_slices hplain hpositive
    rw [((server.reading statement.definitions).tuples_sort_perm _ _).length_eq] at hcover
    refine ⟨_, arePages_slices server h hwords, ?_, hcover⟩
    intro index
    apply nodup_rowsOf
    intro hwidened
    exact (hplain hwidened).sublist ((List.take_sublist _ _).trans (List.drop_sublist _ _))
  · intro hdistinct size hsize hwords
    have hpositive : 0 < size.toNat := hsize
    refine ⟨_, arePages_slices server h hwords, ?_⟩
    simp only [rowsOf_slice (nodup_at_sort hdistinct)]
    exact flatMap_slices_eq hpositive _

/-- A sale of a city in the only year. -/
private def saleOf (city : String) : Fact :=
  .ofTuple [(⟨"[Geo].[City]"⟩, city), (⟨"[Date].[Year]"⟩, "1"),
    (⟨"[Measures]"⟩, "[Measures].[Sales]")]

/-- Sales of three cities. -/
private def yearSales : Facts :=
  ⟨[saleOf "a", saleOf "b", saleOf "c"], fun _ => []⟩

/-- Cities in the order of their sales and of years, and their count. -/
private def rankedCities (measures : List Level) : DimensionQuery :=
  ⟨[⟨"[Geo].[City]"⟩], measures, some .nonEmpty,
    ⟨[], [.descending ⟨"[Measures].[Sales]"⟩, .ofLevel ⟨"[Date].[Year]"⟩], none, none, true⟩⟩

/-- The ranking by one measure. -/
private def rankedBySales : DimensionQuery :=
  rankedCities [⟨"[Measures].[Sales]"⟩]

/-- The same ranking of cities for two measures. -/
private def rankedWithCost : DimensionQuery :=
  rankedCities [⟨"[Measures].[Sales]"⟩, ⟨"[Measures].[Cost]"⟩]

/-- Three cities by one measure come on pages of two. -/
theorem pages_enumerate_ranked_cities :
    ∃ statement unpaged rows, dimensionStatement? "Sales" rankedBySales = .ok statement ∧
      rankedBySales.options.requestsTotalCount = true ∧ CountsWholeRows rankedBySales ∧
      dimensionStatement? "Sales" (rankedBySales.onPage none none) = .ok unpaged ∧
      yearSales.server.total? statement = some 3 ∧
      yearSales.server.rows? unpaged = some rows ∧ rows.Nodup ∧
      PagesCover yearSales.server "Sales" rankedBySales 2 3 rows ∧
      IsThin yearSales.server rankedBySales ∧
      MakesDistinctRows (yearSales.server.reading statement.definitions) rankedBySales ∧
      PagesMakeUp yearSales.server "Sales" rankedBySales 2 3 rows := by
  have hwhole : CountsWholeRows rankedBySales := nofun
  have hthin : IsThin yearSales.server rankedBySales := by
    refine ⟨by decide, ?_⟩
    decide
  obtain ⟨statement, hstatement⟩ : ∃ statement,
      dimensionStatement? "Sales" rankedBySales = .ok statement := ⟨_, rfl⟩
  obtain ⟨unpaged, total, rows, hunpaged, htotal, hrows, hnodup, hcover, hdistinct, hmakeUp⟩ :=
    pages_enumerate_rows yearSales.orderedServer hstatement rfl hwhole
  have htuples : ((yearSales.orderedServer.reading statement.definitions).tuples
      (selectedRows rankedBySales)).length = 3 := by
    cases hstatement
    rfl
  have hthree : total = 3 := by
    cases hstatement
    exact (Option.some.inj htotal).symm
  subst hthree
  rw [htuples] at hcover
  exact ⟨statement, unpaged, rows, hstatement, rfl, hwhole, hunpaged, htotal, hrows, hnodup,
    hcover 2 (by decide) (by decide), hthin, hdistinct hthin,
    hmakeUp (hdistinct hthin) 2 (by decide) (by decide)⟩

/-- The row of a city. -/
private def cityRow (city : String) : Tuple String :=
  [(⟨"[Geo].[City]"⟩, city)]

/-- With a second measure there are two tuples of each city, so that the first page of one tuple and
the second one show the same city, and the last city is on none of the three. -/
theorem pages_repeat_first_city :
    ∃ statement unpaged, dimensionStatement? "Sales" rankedWithCost = .ok statement ∧
      rankedWithCost.options.requestsTotalCount = true ∧
      rankedWithCost.options.filters = [] ∧
      dimensionStatement? "Sales" (rankedWithCost.onPage none none) = .ok unpaged ∧
      yearSales.server.total? statement = some 3 ∧
      yearSales.server.rows? unpaged = some [cityRow "a", cityRow "b", cityRow "c"] ∧
      ¬ PagesMakeUp yearSales.server "Sales" rankedWithCost 1 3
        [cityRow "a", cityRow "b", cityRow "c"] := by
  refine ⟨_, _, rfl, rfl, rfl, rfl, rfl, rfl, ?_⟩
  rintro ⟨pages, hpages, htogether⟩
  obtain ⟨first, hfirst, hfirstRows⟩ := hpages 0 (by decide)
  obtain ⟨second, hsecond, hsecondRows⟩ := hpages 1 (by decide)
  have hzero : pages 0 = [cityRow "a"] := by
    cases hfirst
    exact (Option.some.inj hfirstRows).symm
  have hone : pages 1 = [cityRow "a"] := by
    cases hsecond
    exact (Option.some.inj hsecondRows).symm
  have hrows : pages 0 ++ (pages 1 ++ (pages 2 ++ [])) =
      [cityRow "a", cityRow "b", cityRow "c"] := htogether
  rw [hzero, hone] at hrows
  simp [cityRow] at hrows

end CubeQuery.Plan
