import CubeQuery.Proofs.Plan.ColumnHierarchies
import CubeQuery.Proofs.Plan.CountedColumns
import CubeQuery.Proofs.Plan.TableAcceptance
import CubeQuery.Report.Table

set_option autoImplicit false

/-!
# The members on columns

A statement says with the set on its columns which members its reply has there: the flag and the
count of a dimension query, the measures and the count of a table query. Read with its definitions,
a set of measures lists its members in their order. What sorting and paging do to them is up to the
server: a sorted set lists the same members in some order, and a page some consecutive ones of them.

Main statements: the columns of a dimension query and those of a table query with row attributes
list one thing only (`lists_dimensionStatement_iff`, `lists_tableStatement_iff`), and a table query
without column attributes never lists more than that (`subset_of_lists_tableStatement`). A reply
whose column tuples start with the members listed is read as naming them
(`Statement.measureNames?_of_startsWith`).
-/

namespace CubeQuery.Mdx

open Request (Options)

/-! ## Listed members -/

/-- The members that a set of measures may list in a reply to a statement. -/
inductive Statement.Lists (s : Statement) : SetExpr → List String → Prop where
  | named {name : NamedSet} {value : SetExpr} {names : List String}
    (definition : s.definition? name.text = some (.set name.text value))
    (members : s.Lists value names) : s.Lists (.named name) names
  | measures (first : Level) (rest : List Level) :
    s.Lists (.measures first rest) ((first :: rest).map Level.name)
  | listed (first : Member) (rest : List Member) :
    s.Lists (.listed first rest) ((first :: rest).map Member.text)
  | union {first second : SetExpr} {names others : List String} (left : s.Lists first names)
    (right : s.Lists second others) : s.Lists (.union first [second]) (names ++ others).eraseDups
  | order {set : SetExpr} {key : Expr} {direction : Option Direction} {names sorted : List String}
    (members : s.Lists set names) (perm : sorted.Perm names) :
    s.Lists (.order set key direction) sorted
  | subset {set : SetExpr} {start : Expr} {count : Option Expr} {names page : List String}
    (members : s.Lists set names) (isPage : page <:+: names) :
    s.Lists (.subset set start count) page
  | head {set : SetExpr} {count : Option Expr} {names page : List String}
    (members : s.Lists set names) (isPage : page <+: names) : s.Lists (.head set count) page

namespace Statement

variable {s : Statement}

theorem lists_calculated_iff (member : CalculatedMember) (names : List String) :
    s.Lists (Member.calculated member).toSet names ↔ names = [member.text] := by
  constructor
  · intro h
    cases h
    rfl
  · rintro rfl
    exact .listed _ []

/-- A defined set of measures lists them. -/
theorem lists_named_iff {name : NamedSet} {first : Level} {rest : List Level}
    (h : s.definition? name.text = some (.set name.text (.measures first rest)))
    (names : List String) :
    s.Lists (.named name) names ↔ names = (first :: rest).map Level.name := by
  constructor
  · intro hlists
    cases hlists with
    | named definition members =>
      rw [h] at definition
      cases definition
      cases members
      rfl
  · rintro rfl
    exact .named h (.measures first rest)

theorem lists_union_iff {first second : SetExpr} (names : List String) :
    s.Lists (.union first [second]) names ↔
      ∃ left right, s.Lists first left ∧ s.Lists second right ∧
        names = (left ++ right).eraseDups := by
  constructor
  · intro h
    cases h with
    | union left right => exact ⟨_, _, left, right, rfl⟩
  · rintro ⟨left, right, hleft, hright, rfl⟩
    exact .union hleft hright

/-- A sorted set lists the members of the set. -/
theorem exists_lists_of_sort {options : Options} {set : SetExpr} {names : List String}
    (h : s.Lists (options.sort set) names) : ∃ members, s.Lists set members ∧ names ⊆ members := by
  rw [Options.sort] at h
  generalize options.orderBy = keys at h
  induction keys generalizing names with
  | nil => exact ⟨names, h, List.Subset.refl names⟩
  | cons key rest ih =>
    rw [List.foldr_cons] at h
    cases hlevel : key.level with
    | none =>
      -- A key without a level leaves the set as it is.
      rw [hlevel] at h
      exact ih h
    | some level =>
      rw [hlevel] at h
      cases h with
      | order sorted perm =>
        obtain ⟨members, hmembers, hsubset⟩ := ih sorted
        exact ⟨members, hmembers, List.Subset.trans perm.subset hsubset⟩

/-- A page lists members of the sorted set. -/
theorem exists_lists_of_page {options : Options} {unsorted sorted : SetExpr} {names : List String}
    (h : s.Lists (options.page unsorted sorted) names) :
    ∃ members, s.Lists sorted members ∧ names ⊆ members := by
  rw [Options.page] at h
  cases hskip : options.skip with
  | none =>
    cases htop : options.top with
    | none =>
      rw [hskip, htop] at h
      exact ⟨names, h, List.Subset.refl names⟩
    | some top =>
      rw [hskip, htop] at h
      cases h with
      | head members isPage => exact ⟨_, members, isPage.subset⟩
  | some skip =>
    cases htop : options.top with
    | none =>
      rw [hskip, htop] at h
      cases h with
      | subset members isPage => exact ⟨_, members, isPage.subset⟩
    | some top =>
      rw [hskip, htop] at h
      cases h with
      | subset members isPage => exact ⟨_, members, isPage.subset⟩

/-- A set that is sorted and paged lists members of the set. -/
theorem exists_lists_of_arrange {options : Options} {set : SetExpr} {names : List String}
    (h : s.Lists (options.arrange set) names) :
    ∃ members, s.Lists set members ∧ names ⊆ members := by
  obtain ⟨sorted, hsorted, hpage⟩ := exists_lists_of_page h
  obtain ⟨members, hmembers, hsort⟩ := exists_lists_of_sort hsorted
  exact ⟨members, hmembers, List.Subset.trans hpage hsort⟩

/-! ## Replies -/

/-- A tuple that starts with the member of a name. -/
def StartsWith (tuple : Cellset.Tuple) (name : String) : Prop :=
  ∃ member, tuple.members.head? = some member ∧ member.level.name = name

/-- Measures are read off the members that column tuples start with. -/
theorem measureNames?_of_startsWith {tuples : List Cellset.Tuple} {names : List String}
    (h : List.Forall₂ StartsWith tuples names) : Report.measureNames? tuples = .ok names := by
  rw [Report.measureNames?]
  induction h with
  | nil => rfl
  | @cons tuple name tuples names hstart _ ih =>
    obtain ⟨member, hmember, rfl⟩ := hstart
    have hfirst : tuple.firstMember? = .ok member := by
      rw [Cellset.Tuple.firstMember?, hmember]
    rw [List.mapM_cons, hfirst, ih]
    rfl

/-- A reply of columns and rows, whose column tuples start in order with the members that a
statement lists. -/
structure AnsweredBy (s : Statement) (c : Cellset) (columns rows : Cellset.Axis)
    (names : List String) : Prop where
  axes : c.axes = [columns, rows]
  listed : ∃ set, s.columns = some set ∧ s.Lists set names
  start : List.Forall₂ StartsWith columns.tuples names

namespace AnsweredBy

variable {c : Cellset} {columns rows : Cellset.Axis} {names : List String}

theorem columnAxis?_eq (h : s.AnsweredBy c columns rows names) : c.columnAxis? = .ok columns := by
  rw [Cellset.columnAxis?, h.axes]
  rfl

theorem rowAxis?_eq (h : s.AnsweredBy c columns rows names) : c.rowAxis? = .ok rows := by
  rw [Cellset.rowAxis?, h.axes]
  rfl

theorem measureNames?_eq (h : s.AnsweredBy c columns rows names) :
    Report.measureNames? columns.tuples = .ok names :=
  measureNames?_of_startsWith h.start

end AnsweredBy

end Statement

end CubeQuery.Mdx

namespace CubeQuery.Plan

open Mdx (Level SetExpr Statement NamedSet CalculatedMember)
open Request (Options DimensionQuery TableQuery)

/-! ## The count -/

/-- The count on columns, if it is asked for. -/
def countNames (options : Options) : List String :=
  if options.requestsTotalCount then [CalculatedMember.totalCount.text] else []

theorem mem_countNames_iff (options : Options) (name : String) :
    name ∈ countNames options ↔
      options.requestsTotalCount = true ∧ name = CalculatedMember.totalCount.text := by
  rw [countNames]
  cases options.requestsTotalCount with
  | false => simp
  | true => simp

theorem countNames_eq_nil_iff (options : Options) :
    countNames options = [] ↔ options.requestsTotalCount = false := by
  rw [countNames]
  cases options.requestsTotalCount with
  | false => simp
  | true => simp

/-- The wish that puts the count on columns tells it from the measures of a report. -/
theorem isCount_of_mem_countNames {options : Options} {name : String}
    (h : name ∈ countNames options) : Report.isCount options.requestsTotalCount name = true := by
  obtain ⟨hcount, rfl⟩ := (mem_countNames_iff options name).1 h
  rw [hcount]
  decide

/-- A level that is not called as the library calls something is not the count. -/
theorem ne_totalCount_of_notReserved {level : Level} (h : level.name ∉ Mdx.reservedNames) :
    level.name ≠ CalculatedMember.totalCount.text := by
  intro heq
  apply h
  rw [heq]
  decide

/-- The levels of a table query that has a statement do not include the count. -/
theorem ne_totalCount_of_tableStatement? {cube : String} {query : TableQuery}
    {statement : Statement} (h : tableStatement? cube query = .ok statement) :
    ∀ level ∈ query.measures ++ query.rows, level.name ≠ CalculatedMember.totalCount.text := by
  obtain ⟨split, -, -, -, hsplit, -⟩ := steps_of_tableStatement? h
  obtain ⟨-, hrows, -, hmeasures, -⟩ := (splitTable?_decides query).1.1 ⟨split, hsplit⟩
  intro level hlevel
  rcases List.mem_append.1 hlevel with hmem | hmem
  · exact ne_totalCount_of_notReserved (hmeasures.notReserved level hmem)
  · exact ne_totalCount_of_notReserved (hrows.notReserved level hmem)

/-- The attributes of a dimension query that has a statement do not include the count. -/
theorem ne_totalCount_of_dimensionStatement? {cube : String} {query : DimensionQuery}
    {statement : Statement} (h : dimensionStatement? cube query = .ok statement) :
    ∀ level ∈ query.attributes, level.name ≠ CalculatedMember.totalCount.text := by
  obtain ⟨split, -, -, hsplit, -⟩ := steps_of_dimensionStatement? h
  obtain ⟨-, hattributes, -⟩ := (splitDimension?_decides query).1.1 ⟨split, hsplit⟩
  exact fun level hlevel => ne_totalCount_of_notReserved (hattributes.notReserved level hlevel)

/-! ## Columns of dimension queries -/

/-- The flag of a dimension query, and the count behind it where one is asked for. -/
def flagNames (options : Options) : List String :=
  CalculatedMember.isNonEmpty.text :: countNames options

/-- There is a second column exactly where a count is asked for. -/
theorem length_flagNames (options : Options) :
    (flagNames options).length = if options.requestsTotalCount then 2 else 1 := by
  rw [flagNames, countNames]
  cases options.requestsTotalCount with
  | false => rfl
  | true => rfl

theorem isNonEmpty_mem_flagNames (options : Options) :
    CalculatedMember.isNonEmpty.text ∈ flagNames options :=
  List.mem_cons_self

theorem idxOf_isNonEmpty_flagNames (options : Options) :
    (flagNames options).idxOf CalculatedMember.isNonEmpty.text = 0 :=
  List.idxOf_cons_self

theorem totalCount_mem_flagNames {options : Options} (h : options.requestsTotalCount = true) :
    CalculatedMember.totalCount.text ∈ flagNames options := by
  rw [flagNames, countNames, h]
  decide

/-- The count is in the second column. -/
theorem idxOf_totalCount_flagNames {options : Options} (h : options.requestsTotalCount = true) :
    (flagNames options).idxOf CalculatedMember.totalCount.text = 1 := by
  rw [flagNames, countNames, h]
  decide

/-- The columns of a dimension query list its flag, and the count behind it where one is asked
for. -/
theorem lists_dimensionStatement_iff (cube : String) (query : DimensionQuery) (split : FilterSplit)
    (attributes : SetExpr) (counted : Option SetExpr) :
    ∃ set, (dimensionStatement cube query split attributes counted).columns = some set ∧
      ∀ names, (dimensionStatement cube query split attributes counted).Lists set names ↔
        names = flagNames query.options := by
  cases hcount : query.options.requestsTotalCount with
  | false =>
    refine ⟨(Mdx.Member.calculated .isNonEmpty).toSet, ?_, ?_⟩
    · simp only [dimensionStatement, dimensionColumns, hcount]
      rfl
    · rw [flagNames, countNames, hcount]
      exact Statement.lists_calculated_iff .isNonEmpty
  | true =>
    refine ⟨_, countsBehind_dimensionStatement hcount cube split attributes counted, ?_⟩
    intro names
    rw [flagNames, countNames, hcount, Statement.lists_union_iff]
    constructor
    · rintro ⟨left, right, hleft, hright, rfl⟩
      rw [(Statement.lists_calculated_iff .isNonEmpty left).1 hleft,
        (Statement.lists_calculated_iff .totalCount right).1 hright]
      decide
    · rintro rfl
      exact ⟨_, _, (Statement.lists_calculated_iff .isNonEmpty _).2 rfl,
        (Statement.lists_calculated_iff .totalCount _).2 rfl, by decide⟩

/-- A dimension query defines the count exactly where one is asked for. -/
theorem totalCount_mem_names_iff (cube : String) (query : DimensionQuery) (split : FilterSplit)
    (attributes : SetExpr) (counted : Option SetExpr) :
    CalculatedMember.totalCount.text ∈
        (dimensionStatement cube query split attributes counted).names ↔
      query.options.requestsTotalCount = true := by
  generalize hstart : (Statement.ofCube cube).defineSet NamedSet.attributes.text attributes = start
  -- What is defined before the columns is not called as the count is.
  have hflagged : CalculatedMember.totalCount.text ∉ (flaggedRows start query).1.names := by
    rw [← hstart, flaggedRows]
    cases query.measures with
    | nil =>
      change _ ∉ [NamedSet.attributes.text, CalculatedMember.isNonEmpty.text]
      decide
    | cons first rest =>
      change _ ∉ [NamedSet.attributes.text, NamedSet.measures.text,
        CalculatedMember.isNonEmpty.text]
      decide
  have hnames : (dimensionStatement cube query split attributes counted).names =
      (dimensionColumns (flaggedRows start query).1 query (flaggedRows start query).2
        counted).1.names := by
    rw [← hstart]
    rfl
  rw [hnames, dimensionColumns]
  cases query.options.requestsTotalCount with
  | false => exact iff_of_false hflagged Bool.false_ne_true
  | true =>
    rw [if_pos rfl, defineTotalCount, Statement.names_defineMember]
    exact iff_of_true (List.mem_append_right _ List.mem_cons_self) rfl

/-! ## Columns of table queries -/

/-- The measures of a table query, and the count behind them where one is asked for. -/
def columnNames (query : TableQuery) : List String :=
  query.measures.map Level.name ++ countNames query.options

/-- A table query with measures defines the set of them first. -/
theorem definition?_measures_tableStatement {query : TableQuery} {first : Level} {rest : List Level}
    (h : query.measures = first :: rest) (cube : String) (split : FilterSplit)
    (rows counted : Option SetExpr) :
    (tableStatement cube query split none rows counted).definition? NamedSet.measures.text =
      some (.set NamedSet.measures.text (.measures first rest)) := by
  simp only [tableStatement, tableColumns, h]
  cases rows with
  | none => cases counted <;> rfl
  | some set => cases counted <;> rfl

/-- Measures and count are different members. -/
theorem nodup_columnNames {query : TableQuery} (h : Mdx.IsMeasureList query.measures) :
    (columnNames query).Nodup := by
  have hmeasures : (query.measures.map Level.name).Nodup := by
    apply h.distinct.map
    rintro ⟨first⟩ ⟨second⟩ heq
    exact congrArg Level.mk heq
  rw [columnNames, countNames]
  cases query.options.requestsTotalCount with
  | false => simpa using hmeasures
  | true =>
    refine List.nodup_append.2 ⟨hmeasures, List.pairwise_singleton _ _, ?_⟩
    rintro name hname _ hcount rfl
    obtain ⟨level, hlevel, rfl⟩ := List.mem_map.1 hname
    exact ne_totalCount_of_notReserved (h.notReserved level hlevel) (List.mem_singleton.1 hcount)

/-- Columns are sorted where there are no rows. -/
theorem arrangedAxes_snd {split : FilterSplit} {query : TableQuery} {rows : Option SetExpr}
    (h : rowSet? split query = .ok rows) (statement : Statement) (columns : SetExpr) :
    (arrangedAxes statement query columns rows).2 =
      if query.rows.isEmpty then query.options.arrange columns else columns := by
  rw [rowSet?] at h
  cases hrows : query.rows.isEmpty with
  | true =>
    rw [hrows, if_pos rfl] at h
    cases h
    rfl
  | false =>
    rw [hrows, if_neg Bool.false_ne_true] at h
    obtain ⟨set, rfl, -⟩ := eq_ok_of_some_map_eq_ok h
    rfl

/-- The count is joined to the columns where one is asked for. -/
theorem countedColumns_snd {split : FilterSplit} {query : TableQuery} {counted : Option SetExpr}
    (h : requestedTableCount? split query = .ok counted) (statement : Statement)
    (columns : SetExpr) :
    (countedColumns statement query columns counted).2 =
      if query.options.requestsTotalCount then .union columns [countColumn] else columns := by
  rw [requestedTableCount?] at h
  cases hcount : query.options.requestsTotalCount with
  | true =>
    rw [hcount, if_pos rfl] at h
    obtain ⟨set, rfl, -⟩ := eq_ok_of_some_map_eq_ok h
    rfl
  | false =>
    rw [hcount, if_neg Bool.false_ne_true] at h
    cases h
    rfl

/-- The measures on the columns of a table query without column attributes. -/
def measureColumns (query : TableQuery) : SetExpr :=
  if query.rows.isEmpty then query.options.arrange (setNamed .measures) else setNamed .measures

/-- What a table query without column attributes has on columns, and what the measures in it
list. -/
theorem columns_of_tableStatement? {cube : String} {query : TableQuery} {statement : Statement}
    (hnone : query.columns = []) (h : tableStatement? cube query = .ok statement) :
    Mdx.IsMeasureList query.measures ∧
    (∀ names, statement.Lists (setNamed .measures) names ↔
      names = query.measures.map Level.name) ∧
    statement.columns = some (if query.options.requestsTotalCount then
      .union (measureColumns query) [countColumn] else measureColumns query) := by
  obtain ⟨split, columns, rows, counted, hsplit, hcolumn, hset, hrows, hcounted, rfl⟩ :=
    steps_of_tableStatement? h
  obtain ⟨-, -, -, hmeasures, -⟩ := (splitTable?_decides query).1.1 ⟨split, hsplit⟩
  obtain ⟨first, rest, hlist⟩ : ∃ first rest, query.measures = first :: rest := by
    cases hlist : query.measures with
    | nil => simp [hnone, hlist] at hcolumn
    | cons first rest => exact ⟨first, rest, rfl⟩
  have hcolumns : columns = none := by
    rw [columnSet?, hnone] at hset
    exact (Except.ok.inj hset).symm
  subst hcolumns
  refine ⟨hmeasures, ?_, ?_⟩
  · rw [hlist]
    exact Statement.lists_named_iff
      (definition?_measures_tableStatement hlist cube split rows counted)
  · have hplain : (tableStatement cube query split none rows counted).columns =
        some (countedColumns (arrangedAxes (tableColumns (Statement.ofCube cube) query none).1 query
          (setNamed .measures) rows).1 query
          (arrangedAxes (tableColumns (Statement.ofCube cube) query none).1 query
            (setNamed .measures) rows).2 counted).2 := rfl
    rw [hplain, countedColumns_snd hcounted, arrangedAxes_snd hrows]
    rfl

/-- The columns of a table query with row attributes and without column attributes list its
measures, and the count behind them where one is asked for. -/
theorem lists_tableStatement_iff {cube : String} {query : TableQuery} {statement : Statement}
    (hnone : query.columns = []) (hne : query.rows ≠ [])
    (h : tableStatement? cube query = .ok statement) :
    ∃ set, statement.columns = some set ∧
      ∀ names, statement.Lists set names ↔ names = columnNames query := by
  obtain ⟨hmeasures, hlists, hcolumns⟩ := columns_of_tableStatement? hnone h
  have hset : measureColumns query = setNamed .measures := by
    rw [measureColumns, List.isEmpty_eq_false_iff.2 hne, if_neg Bool.false_ne_true]
  refine ⟨_, hcolumns, ?_⟩
  intro names
  rw [hset, columnNames, countNames]
  cases hcount : query.options.requestsTotalCount with
  | false =>
    simpa using hlists names
  | true =>
    have hall : columnNames query =
        query.measures.map Level.name ++ [CalculatedMember.totalCount.text] := by
      rw [columnNames, countNames, hcount]
      rfl
    have hnodup := nodup_columnNames hmeasures
    rw [hall] at hnodup
    rw [if_pos rfl, if_pos rfl, Statement.lists_union_iff]
    constructor
    · rintro ⟨left, right, hleft, hright, rfl⟩
      rw [(hlists left).1 hleft, (Statement.lists_calculated_iff .totalCount right).1 hright]
      exact Mdx.eraseDups_of_nodup hnodup
    · rintro rfl
      exact ⟨_, _, (hlists _).2 rfl, (Statement.lists_calculated_iff .totalCount _).2 rfl,
        (Mdx.eraseDups_of_nodup hnodup).symm⟩

/-- A table query without column attributes lists no other columns than its measures, and the count
where one is asked for. -/
theorem subset_of_lists_tableStatement {cube : String} {query : TableQuery} {statement : Statement}
    {set : SetExpr} {names : List String} (hnone : query.columns = [])
    (h : tableStatement? cube query = .ok statement) (hset : statement.columns = some set)
    (hnames : statement.Lists set names) : names ⊆ columnNames query := by
  obtain ⟨-, hlists, hcolumns⟩ := columns_of_tableStatement? hnone h
  have hmeasures : ∀ names, statement.Lists (measureColumns query) names →
      names ⊆ query.measures.map Level.name := by
    intro names hnames
    rw [measureColumns] at hnames
    cases hrows : query.rows.isEmpty with
    | true =>
      rw [hrows] at hnames
      obtain ⟨members, hmembers, hsubset⟩ := Statement.exists_lists_of_arrange hnames
      rwa [(hlists members).1 hmembers] at hsubset
    | false =>
      rw [hrows] at hnames
      exact ((hlists names).1 hnames) ▸ List.Subset.refl _
  rw [hcolumns] at hset
  cases hset
  rw [columnNames, countNames]
  cases hcount : query.options.requestsTotalCount with
  | false =>
    rw [hcount] at hnames
    simpa using hmeasures names hnames
  | true =>
    rw [hcount] at hnames
    obtain ⟨left, right, hleft, hright, rfl⟩ := (Statement.lists_union_iff names).1 hnames
    rw [(Statement.lists_calculated_iff .totalCount right).1 hright]
    intro name hname
    rcases List.mem_append.1 (List.mem_eraseDups.1 hname) with hmem | hmem
    · exact List.mem_append_left _ (hmeasures left hleft hmem)
    · exact List.mem_append_right _ hmem

end CubeQuery.Plan
