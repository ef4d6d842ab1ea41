import CubeQuery.Proofs.Plan.ListedColumns
import CubeQuery.Proofs.Report.RowCount
import CubeQuery.Proofs.Report.RowLevels
import CubeQuery.Proofs.Session.Calls

set_option autoImplicit false

/-!
# The layout of dimension replies

The statement of a dimension query decides how many cells each row of the reply has: one for the
flag, and one more for the count where the options or a filter ask for it. The report is not told
what the statement has on columns. It reads rows of one or two cells by the wish for the count, and
both have to come to the same width.

Main statement: a reply with one column tuple for each member that the statement lists on columns
is read in the layout of the statement, and any other reply with rows is refused exactly if the
number of its cells is not that of such rows (`dimension_reads_listed_columns`).
-/

namespace CubeQuery.Report

open Cellset (Tuple Axis)
open Mdx (Statement CalculatedMember)

/-- The value that a row has for a member on columns. -/
def valueUnder (c : Cellset) (names : List String) (r : Nat) (name : String) : Option Value :=
  c.cells[r * names.length + names.idxOf name]?.bind (·.value)

/-- The value for a member is found in the block of its row. -/
theorem block_idxOf (c : Cellset) {names : List String} {name : String} (h : name ∈ names)
    (r : Nat) :
    (block c (r * names.length) names.length)[names.idxOf name]?.join =
      valueUnder c names r name := by
  rw [getElem?_block c _ (List.idxOf_lt_length_of_mem h)]
  rfl

theorem isSet_iff (flag : Option Value) :
    isSet flag = true ↔ ∃ x, flag.bind Value.toNumber? = some x ∧ (x == 1) = true := by
  rw [isSet]
  cases flag.bind Value.toNumber? with
  | none => simp
  | some x => simp

/-- A report that has the rows of a reply, with their members, flags and count. -/
structure Dimension.Reads (statement : Statement) (names : List String) (c : Cellset) (rows : Axis)
    (report : Report.Dimension Row) : Prop where
  length_rows : report.rows.length = rows.tuples.length
  row : ∀ (r : Nat) (tuple : Tuple), rows.tuples[r]? = some tuple →
    ∃ row, report.rows[r]? = some row ∧
      (∀ level, row.data[level]? =
        (tuple.members.filter fun member => member.level.name == level).getLast?.map (·.value)) ∧
      (row.isNonEmpty = true ↔ ∃ x, (valueUnder c names r CalculatedMember.isNonEmpty.text).bind
        Value.toNumber? = some x ∧ (x == 1) = true)
  noCount : CalculatedMember.totalCount.text ∉ statement.names → report.totalCount = none
  zeroCount : CalculatedMember.totalCount.text ∈ statement.names → rows.tuples = [] →
    report.totalCount = some 0
  count : CalculatedMember.totalCount.text ∈ statement.names → rows.tuples ≠ [] →
    ∃ count, report.totalCount = some count ∧ StandsFor
      (valueUnder c names (rows.tuples.length - 1) CalculatedMember.totalCount.text) count

end CubeQuery.Report

namespace CubeQuery.Plan

open Cellset (Axis)
open Mdx (SetExpr Statement CalculatedMember)
open Report (block blocksOf dimensionRows? valueUnder)
open Request (Options DimensionQuery)

/-- The flag of a row is in its first cell. -/
theorem valueUnder_isNonEmpty (c : Cellset) (options : Options) (r : Nat) :
    valueUnder c (flagNames options) r CalculatedMember.isNonEmpty.text =
      (block c (r * (if options.requestsTotalCount then 2 else 1))
        (if options.requestsTotalCount then 2 else 1))[0]?.join := by
  rw [← Report.block_idxOf c (isNonEmpty_mem_flagNames options), idxOf_isNonEmpty_flagNames,
    length_flagNames]

/-- The count beside a row is in its second cell. -/
theorem valueUnder_totalCount (c : Cellset) {options : Options}
    (h : options.requestsTotalCount = true) (r : Nat) :
    valueUnder c (flagNames options) r CalculatedMember.totalCount.text =
      (block c (r * 2) 2)[1]?.join := by
  rw [← Report.block_idxOf c (totalCount_mem_flagNames h), idxOf_totalCount_flagNames h,
    length_flagNames, if_pos h]

/-- The count is the one beside the last row. -/
theorem getLast?_count (c : Cellset) {rows : Axis} {options : Options}
    (h : options.requestsTotalCount = true) (hne : rows.tuples ≠ []) :
    ((blocksOf c rows 2).getLast?.bind fun entry => entry.2[1]?.join) =
      valueUnder c (flagNames options) (rows.tuples.length - 1)
        CalculatedMember.totalCount.text := by
  rw [valueUnder_totalCount c h, Report.getLast?_blocksOf, List.getLast?_eq_some_getLast hne]
  rfl

/-- A reply that has no rows, or cells for exactly its rows, is read in the layout of the
statement. -/
theorem dimensionRows?_reads (cube : String) (query : DimensionQuery) (split : FilterSplit)
    (attributes : SetExpr) (counted : Option SetExpr) {c : Cellset} {rows : Axis}
    (hrows : c.rowAxis? = .ok rows)
    (hfit : rows.tuples = [] ∨
      rows.tuples.length * (if query.options.requestsTotalCount then 2 else 1) = c.cells.size) :
    ∃ report, dimensionRows? c query.options.requestsTotalCount = .ok report ∧
      report.Reads (dimensionStatement cube query split attributes counted)
        (flagNames query.options) c rows := by
  have hdefines := totalCount_mem_names_iff cube query split attributes counted
  refine ⟨_, Report.dimensionRows?_eq_ok hrows hfit, ?_⟩
  constructor
  case length_rows => rw [List.length_map, Report.length_blocksOf]
  case row =>
    intro r tuple htuple
    rw [List.getElem?_map, Report.getElem?_blocksOf, htuple]
    refine ⟨_, rfl, fun level => Report.getElem?_addMembers tuple.members level, ?_⟩
    rw [valueUnder_isNonEmpty]
    exact Report.isSet_iff _
  case noCount =>
    intro hno
    exact if_neg (mt hdefines.2 hno)
  case zeroCount =>
    intro hcount hnil
    refine (if_pos (hdefines.1 hcount)).trans ?_
    rw [Report.blocksOf, hnil]
    rfl
  case count =>
    intro hcount hne
    have hrequests := hdefines.1 hcount
    rw [← getLast?_count c hrequests hne]
    exact ⟨_, if_pos hrequests, Report.standsFor_countOf _⟩

end CubeQuery.Plan

namespace CubeQuery.Session

open Cellset (Axis Cell Tuple)
open Mdx (Level CalculatedMember)
open Plan (dimensionText? dimensionStatement?)
open Request (Filter Options DimensionOptions)

/-- **The rows of a dimension are read as its statement lays them out.** The columns of the
statement list one thing only. A reply with one column tuple for each member listed, and a cell for
every column of every row, is read in that layout, with a count exactly if the statement defines
it. On any reply with an axis of rows the call fails exactly if there are rows and their cells are
not one for each, or two where a count is asked for. -/
theorem dimension_reads_listed_columns {σ : Type} {cube : Cube (StateM σ)} {attributes : List Level}
    {options : DimensionOptions} {text : String} {s : σ} {c : Cellset}
    (htext : dimensionText? cube.name (options.query attributes) = .ok text)
    (hanswer : ((cube.transport text).run s).1 = .ok c) :
    ∃ statement set names,
      dimensionStatement? cube.name (options.query attributes) = .ok statement ∧
      statement.text? = .ok text ∧ statement.columns = some set ∧
      (∀ others, statement.Lists set others ↔ others = names) ∧
      (∀ columns rows, c.axes = [columns, rows] → columns.tuples.length = names.length →
        c.cells.size = columns.tuples.length * rows.tuples.length →
        ∃ report, ((cube.dimension attributes options).run s).1 = .ok report ∧
          report.Reads statement names c rows) ∧
      ∀ rows, c.rowAxis? = .ok rows →
        ((∃ e, ((cube.dimension attributes options).run s).1 = .error e) ↔
          rows.tuples ≠ [] ∧ c.cells.size ≠
            rows.tuples.length * if options.options.requestsTotalCount then 2 else 1) := by
  obtain ⟨split, set, counted, -, hstatement, hlines⟩ := Plan.statement_of_dimensionText? htext
  obtain ⟨columns, hcolumns, hlists⟩ := Plan.lists_dimensionStatement_iff cube.name
    (options.query attributes) split set counted
  have hperform : ((cube.dimension attributes options).run s).1 =
      Report.dimensionRows? c options.options.requestsTotalCount :=
    @Call.perform_of_answer σ cube (.dimension attributes options) text s c htext hanswer
  rw [hperform]
  refine ⟨_, columns, _, hstatement, hlines, hcolumns, hlists, ?_, ?_⟩
  · intro found rows haxes hwidth hsize
    have hrows : c.rowAxis? = .ok rows := by
      rw [Cellset.rowAxis?, haxes]
      rfl
    have hfit : rows.tuples.length * (if options.options.requestsTotalCount then 2 else 1) =
        c.cells.size := by
      rw [hsize, hwidth, Plan.length_flagNames, Nat.mul_comm]
      rfl
    exact Plan.dimensionRows?_reads cube.name (options.query attributes) split set counted hrows
      (.inr hfit)
  · intro rows hrows
    constructor
    · rintro ⟨e, herror⟩
      refine not_or.1 fun hfit => ?_
      obtain ⟨report, hreport⟩ := Report.dimensionRows?_isOk hrows (hfit.imp_right Eq.symm)
      rw [hreport] at herror
      cases herror
    · rintro ⟨hne, hsize⟩
      exact ⟨_, Report.dimensionRows?_eq_mismatch hrows hne (Ne.symm hsize)⟩

/-- Two cities, one of them with data, and the count of both. -/
private def flaggedCities : Cellset :=
  let columns := [CalculatedMember.isNonEmpty.text, CalculatedMember.totalCount.text].map
    fun name => (⟨[⟨true, ⟨name⟩, 0, none, none⟩]⟩ : Tuple)
  let rows := ["a", "b"].map
    fun city => (⟨[⟨false, ⟨"[Geo].[City]"⟩, 1, none, some (.text city)⟩]⟩ : Tuple)
  let cells := ["1", "2", "0", "2"].map fun value => (⟨some (.text value), none⟩ : Cell)
  ⟨[⟨columns⟩, ⟨rows⟩], cells.toArray⟩

/-- A filter that only asks for the count of the cities. -/
private def countingCities : DimensionOptions :=
  .ofOptions ⟨[(Filter.ofLevel ⟨"[Geo].[City]"⟩).withTotalCount], [], none, none, false⟩

/-- A count that a filter asks for is read from the last row, as the statement lists it. -/
theorem counted_cities_read_listed_columns :
    ∃ statement report,
      dimensionStatement? "Sales" (countingCities.query [⟨"[Geo].[City]"⟩]) = .ok statement ∧
      CalculatedMember.totalCount.text ∈ statement.names ∧
      (((Cube.answering "Sales" flaggedCities).dimension [⟨"[Geo].[City]"⟩]
        countingCities).run ()).1 = .ok report ∧
      report.rows.length = 2 ∧ report.totalCount = some 2 := by
  obtain ⟨statement, set, names, hstatement, -, hcolumns, hlists, hread, -⟩ :=
    @dimension_reads_listed_columns Unit (Cube.answering "Sales" flaggedCities)
      [⟨"[Geo].[City]"⟩] countingCities _ () flaggedCities rfl rfl
  cases hstatement
  cases hcolumns
  obtain rfl := (hlists _).1 (.union (.listed (.calculated .isNonEmpty) [])
    (.listed (.calculated .totalCount) []))
  obtain ⟨report, hreport, hlayout⟩ := hread _ _ rfl rfl rfl
  obtain ⟨count, htotalCount, hcount⟩ := hlayout.count (by decide) (by decide)
  have htwo : count = 2 := ((Report.standsFor_iff _ _).1 hcount).symm.trans (by decide +kernel)
  exact ⟨_, report, rfl, by decide, hreport, hlayout.length_rows, htwo ▸ htotalCount⟩

end CubeQuery.Session
