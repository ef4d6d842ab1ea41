import CubeQuery.Proofs.Report.TableRows

set_option autoImplicit false

/-!
# Grand totals and subtotals

Under several row attributes a reply has tuples all of whose members are at level 0, the grand
totals, and tuples only some of whose members are, the subtotals. A table takes the smallest level
of a tuple, so that it counts subtotals among the totals, of which it admits one.

Main statement: a reply with one grand total is read exactly if it has no subtotal; then the grand
total gives the totals and every other tuple a row (`grandTotal_read_iff`). A subtotal beside the
grand total is refused (`subtotal_refused`).
-/

namespace CubeQuery.Report

open Cellset (Member Tuple Axis)

/-- A tuple whose members are all at level 0. -/
def IsGrandTotal (tuple : Tuple) : Prop :=
  ∀ member ∈ tuple.members, member.levelNumber = 0

/-- A tuple of which some members are at level 0 and others are not. -/
def IsSubtotal (tuple : Tuple) : Prop :=
  (∃ member ∈ tuple.members, member.levelNumber = 0) ∧
    ∃ member ∈ tuple.members, member.levelNumber ≠ 0

instance (tuple : Tuple) : Decidable (IsGrandTotal tuple) :=
  inferInstanceAs (Decidable (∀ member ∈ tuple.members, member.levelNumber = 0))

instance (tuple : Tuple) : Decidable (IsSubtotal tuple) :=
  inferInstanceAs (Decidable ((∃ member ∈ tuple.members, member.levelNumber = 0) ∧
    ∃ member ∈ tuple.members, member.levelNumber ≠ 0))

/-- A reply with all cells and exactly one grand total among its rows. -/
structure HasGrandTotal (c : Cellset) (columns rows : Axis) : Prop where
  axes : c.axes = [columns, rows]
  measures : ∀ tuple ∈ columns.tuples, tuple.members ≠ []
  members : ∀ tuple ∈ rows.tuples, tuple.members ≠ []
  cells : rows.tuples.length * columns.tuples.length ≤ c.cells.size
  grandTotal : (rows.tuples.countP fun tuple => IsGrandTotal tuple) = 1

/-! ## Tuples with a member at level 0 -/

theorem not_isSubtotal_of_isGrandTotal {tuple : Tuple} (h : IsGrandTotal tuple) :
    ¬ IsSubtotal tuple := by
  rintro ⟨-, member, hmember, hlevel⟩
  exact hlevel (h member hmember)

/-- A tuple with members has one at level 0 if it is a grand total or a subtotal. -/
theorem lowestLevel?_eq_zero_iff_total {tuple : Tuple} (hne : tuple.members ≠ []) :
    lowestLevel? tuple = some 0 ↔ IsGrandTotal tuple ∨ IsSubtotal tuple := by
  rw [lowestLevel?_eq_zero_iff]
  constructor
  · intro hzero
    by_cases hgrand : IsGrandTotal tuple
    · exact .inl hgrand
    · simp only [IsGrandTotal, not_forall] at hgrand
      obtain ⟨member, hmember, hlevel⟩ := hgrand
      exact .inr ⟨hzero, member, hmember, hlevel⟩
  · rintro (hgrand | hsub)
    · obtain ⟨member, hmember⟩ := List.exists_mem_of_ne_nil _ hne
      exact ⟨member, hmember, hgrand member hmember⟩
    · exact hsub.1

/-- The tuples with a member at level 0 are as many as the grand totals and the subtotals. -/
theorem countP_lowestLevel? {tuples : List Tuple} (hne : ∀ tuple ∈ tuples, tuple.members ≠ []) :
    (tuples.countP fun tuple => lowestLevel? tuple = some 0) =
      (tuples.countP fun tuple => IsGrandTotal tuple) +
        tuples.countP fun tuple => IsSubtotal tuple := by
  induction tuples with
  | nil => rfl
  | cons tuple rest ih =>
    obtain ⟨hfirst, hrest⟩ := List.forall_mem_cons.1 hne
    simp only [List.countP_cons, decide_eq_true_iff, lowestLevel?_eq_zero_iff_total hfirst,
      ih hrest]
    -- No tuple is counted twice.
    by_cases hgrand : IsGrandTotal tuple
    · rw [if_pos (.inl hgrand), if_pos hgrand, if_neg (not_isSubtotal_of_isGrandTotal hgrand)]
      omega
    · by_cases hsub : IsSubtotal tuple
      · rw [if_pos (.inr hsub), if_neg hgrand, if_pos hsub]
        omega
      · rw [if_neg (not_or.2 ⟨hgrand, hsub⟩), if_neg hgrand, if_neg hsub]
        omega

/-- More than one totals row is refused. -/
theorem checkTotals_eq_multiple {includeTotals : Bool} {found : List Row}
    (h : 1 < found.length) :
    checkTotals includeTotals found = .error (.invalidResponse .multipleTotals) := by
  match found with
  | [] => simp at h
  | [_] => simp at h
  | _ :: _ :: _ => rfl

/-! ## Reading the grand total -/

namespace HasGrandTotal

variable {c : Cellset} {columns rows : Axis} (h : HasGrandTotal c columns rows)
include h

theorem columnAxis : c.axes[0]? = some columns := by
  rw [h.axes]
  rfl

theorem rowAxis : c.axes[1]? = some rows := by
  rw [h.axes]
  rfl

theorem rows_ne_nil : rows.tuples ≠ [] := by
  intro hnil
  have hone := h.grandTotal
  rw [hnil] at hone
  cases hone

theorem countP_eq_one_iff :
    (rows.tuples.countP fun tuple => lowestLevel? tuple = some 0) = 1 ↔
      ∀ tuple ∈ rows.tuples, ¬ IsSubtotal tuple := by
  rw [countP_lowestLevel? h.members, h.grandTotal, Nat.add_eq_left, List.countP_eq_zero]
  simp only [decide_eq_true_iff]

/-- A reply with one grand total is readable exactly if it has no subtotal. -/
theorem isReadable_iff :
    IsReadable c columns rows true ↔ ∀ tuple ∈ rows.tuples, ¬ IsSubtotal tuple := by
  rw [← h.countP_eq_one_iff]
  constructor
  · intro hreadable
    exact hreadable.totals.resolve_left h.rows_ne_nil
  · intro hcount
    exact ⟨h.columnAxis, h.rowAxis, h.measures, h.cells, .inr hcount⟩

/-- Beside a subtotal more than one totals row is found. -/
theorem refused_of_isSubtotal (includeTotalCount : Bool)
    (hsub : ∃ tuple ∈ rows.tuples, IsSubtotal tuple) :
    tableRows? c true includeTotalCount = .error (.invalidResponse .multipleTotals) := by
  have hfound : 1 < (foundTotals c rows (columnNames columns) true includeTotalCount).length := by
    have hpos : 0 < rows.tuples.countP fun tuple => IsSubtotal tuple := by
      obtain ⟨tuple, hmem, htuple⟩ := hsub
      exact List.countP_pos_iff.2 ⟨tuple, hmem, decide_eq_true htuple⟩
    rw [length_foundTotals _ h.rows_ne_nil, countP_lowestLevel? h.members, h.grandTotal]
    omega
  rw [tableRows?_eq h.columnAxis h.rowAxis h.measures h.cells, checkTotals_eq_multiple hfound]
  rfl

/-- The grand total has a place among the rows. -/
theorem exists_isGrandTotal :
    ∃ (total : Tuple) (r : Nat), rows.tuples[r]? = some total ∧ IsGrandTotal total := by
  have hpos : 0 < rows.tuples.countP fun tuple => IsGrandTotal tuple := by
    rw [h.grandTotal]
    exact Nat.one_pos
  obtain ⟨total, hmem, htotal⟩ := List.countP_pos_iff.1 hpos
  obtain ⟨r, hr⟩ := List.mem_iff_getElem?.1 hmem
  exact ⟨total, r, hr, of_decide_eq_true htotal⟩

section Plain

variable (hnone : ∀ tuple ∈ rows.tuples, ¬ IsSubtotal tuple)
include hnone

/-- Where there is no subtotal, the tuples with a member at level 0 are the grand total. -/
theorem lowestLevel?_eq_zero_iff_isGrandTotal {entry : Tuple × Nat}
    (hentry : entry ∈ rows.tuples.zipIdx) :
    lowestLevel? entry.1 = some 0 ↔ IsGrandTotal entry.1 := by
  have hmem := List.fst_mem_of_mem_zipIdx hentry
  rw [lowestLevel?_eq_zero_iff_total (h.members _ hmem), or_iff_left (hnone _ hmem)]

/-- Where there is no subtotal, all tuples but the grand total give rows. -/
theorem filter_lowestLevel?_ne_zero :
    (rows.tuples.zipIdx.filter fun entry => lowestLevel? entry.1 ≠ some 0) =
      rows.tuples.zipIdx.filter fun entry => ¬ IsGrandTotal entry.1 := by
  apply List.filter_congr
  intro entry hentry
  exact decide_eq_decide.2
    (not_congr (h.lowestLevel?_eq_zero_iff_isGrandTotal hnone hentry))

/-- A table without subtotals has the grand total as its totals and all other tuples as rows. -/
theorem reads_grandTotal {includeTotalCount : Bool} {report : Table Row}
    (hread : report.Reads c columns rows true includeTotalCount) :
    ∃ total r totals, rows.tuples[r]? = some total ∧ IsGrandTotal total ∧
      report.totals = some totals ∧
      IsRowOf c (columnNames columns) includeTotalCount total r totals ∧
      List.Forall₂
        (fun entry row => IsRowOf c (columnNames columns) includeTotalCount entry.1 entry.2 row)
        (rows.tuples.zipIdx.filter fun entry => ¬ IsGrandTotal entry.1) report.rows := by
  obtain ⟨total, r, hr, htotal⟩ := h.exists_isGrandTotal
  have hzip : (total, r) ∈ rows.tuples.zipIdx := List.mem_zipIdx_iff_getElem?.2 hr
  have hentry : (total, r) ∈ rows.tuples.zipIdx.filter fun entry =>
      lowestLevel? entry.1 = some 0 :=
    List.mem_filter.2 ⟨hzip, decide_eq_true
      ((h.lowestLevel?_eq_zero_iff_isGrandTotal hnone hzip).2 htotal)⟩
  have hothers := hread.others
  rw [h.filter_lowestLevel?_ne_zero hnone] at hothers
  have htotals := hread.totals h.rows_ne_nil
  cases hreport : report.totals with
  | none =>
    rw [hreport] at htotals
    rw [List.forall₂_nil_right_iff.1 htotals] at hentry
    cases hentry
  | some totals =>
    -- One totals row belongs to one tuple, and the grand total is among these tuples.
    rw [hreport] at htotals
    obtain ⟨entry, rest, hrow, hrest, heq⟩ := List.forall₂_cons_right_iff.1 htotals
    obtain rfl := List.forall₂_nil_right_iff.1 hrest
    rw [heq, List.mem_singleton] at hentry
    subst hentry
    exact ⟨total, r, totals, hr, htotal, rfl, hrow, hothers⟩

end Plain

end HasGrandTotal

/-- **The grand total is read unless there are subtotals.** A reply with all cells and one grand
total is read exactly if it has no subtotal. Then the grand total gives the totals, and all other
tuples give the rows in their order. Otherwise the subtotals are taken for further totals, and the
reply is refused. -/
theorem grandTotal_read_iff {c : Cellset} {columns rows : Axis} (h : HasGrandTotal c columns rows)
    (includeTotalCount : Bool) :
    ((∃ report, tableRows? c true includeTotalCount = .ok report) ↔
      ∀ tuple ∈ rows.tuples, ¬ IsSubtotal tuple) ∧
    (∀ report, tableRows? c true includeTotalCount = .ok report →
      ∃ total r totals, rows.tuples[r]? = some total ∧ IsGrandTotal total ∧
        report.totals = some totals ∧
        IsRowOf c (columnNames columns) includeTotalCount total r totals ∧
        List.Forall₂
          (fun entry row => IsRowOf c (columnNames columns) includeTotalCount entry.1 entry.2 row)
          (rows.tuples.zipIdx.filter fun entry => ¬ IsGrandTotal entry.1) report.rows) ∧
    ((∃ tuple ∈ rows.tuples, IsSubtotal tuple) →
      tableRows? c true includeTotalCount = .error (.invalidResponse .multipleTotals)) := by
  have hnone : ∀ {report}, tableRows? c true includeTotalCount = .ok report →
      ∀ tuple ∈ rows.tuples, ¬ IsSubtotal tuple := by
    intro report hreport tuple hmem hsub
    rw [h.refused_of_isSubtotal includeTotalCount ⟨tuple, hmem, hsub⟩] at hreport
    cases hreport
  refine ⟨⟨?_, ?_⟩, ?_, h.refused_of_isSubtotal includeTotalCount⟩
  · rintro ⟨report, hreport⟩
    exact hnone hreport
  · intro hno
    obtain ⟨report, hreport, -⟩ := exists_reads_of_isReadable (h.isReadable_iff.2 hno)
    exact ⟨report, hreport⟩
  · intro report hreport
    obtain ⟨report', hreport', hread⟩ := exists_reads_of_isReadable
      (h.isReadable_iff.2 (hnone hreport))
    cases hreport.symm.trans hreport'
    exact h.reads_grandTotal (hnone hreport) hread

/-- A member of a level with its level number. -/
private def memberOf (level value : String) (levelNumber : UInt32) : Member :=
  ⟨false, ⟨level⟩, levelNumber, none, some (.text value)⟩

private def everyCountry : Member := memberOf "[Geo].[Country]" "All" 0

private def everyYear : Member := memberOf "[Date].[Year]" "All" 0

private def oneCountry : Member := memberOf "[Geo].[Country]" "US" 1

private def oneYear : Member := memberOf "[Date].[Year]" "2020" 1

/-- A reply on sales with a cell for each tuple. -/
private def salesOf (tuples : List Tuple) : Cellset :=
  ⟨[⟨[⟨[⟨true, ⟨"[Measures].[Sales]"⟩, 0, none, none⟩]⟩]⟩, ⟨tuples⟩],
    (tuples.map fun _ => ⟨some (.text "s"), none⟩).toArray⟩

/-- Beside a year the grand total is read as the totals. -/
theorem sales_grandTotal_read : ∃ report row totals,
    tableRows? (salesOf [⟨[everyCountry, everyYear]⟩, ⟨[oneCountry, oneYear]⟩]) true false =
      .ok report ∧
    report.totals = some totals ∧ totals["[Geo].[Country]"]? = some everyCountry.value ∧
    report.rows = [row] ∧ row["[Geo].[Country]"]? = some oneCountry.value := by
  have hgrand : HasGrandTotal
      (salesOf [⟨[everyCountry, everyYear]⟩, ⟨[oneCountry, oneYear]⟩]) _ _ :=
    ⟨rfl, by decide, by decide, by decide, by decide⟩
  obtain ⟨hok, hread, -⟩ := grandTotal_read_iff hgrand false
  obtain ⟨report, hreport⟩ := hok.2 (by decide)
  obtain ⟨total, r, totals, hr, htotal, htotals, hrow, hrows⟩ := hread report hreport
  obtain ⟨row, others, hother, hothers, hrows⟩ := List.forall₂_cons_left_iff.1 hrows
  obtain rfl := List.forall₂_nil_left_iff.1 hothers
  have hfirst : total = ⟨[everyCountry, everyYear]⟩ := by
    match r with
    | 0 => exact (Option.some.inj hr).symm
    | 1 =>
      cases hr
      exact absurd htotal (by decide)
    | _ + 2 => cases hr
  subst hfirst
  exact ⟨report, row, totals, hreport, htotals,
    hrow.of_member "[Geo].[Country]" everyCountry rfl, hrows,
    hother.of_member "[Geo].[Country]" oneCountry rfl⟩

/-- The subtotal of a country beside the grand total is refused. -/
theorem subtotal_refused : ∃ c columns rows, HasGrandTotal c columns rows ∧
    tableRows? c true false = .error (.invalidResponse .multipleTotals) := by
  refine ⟨salesOf [⟨[everyCountry, everyYear]⟩, ⟨[oneCountry, everyYear]⟩, ⟨[oneCountry, oneYear]⟩],
    _, _, ⟨rfl, ?_, ?_, ?_, ?_⟩, rfl⟩
  all_goals decide

end CubeQuery.Report
