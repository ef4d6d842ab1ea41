import CubeQuery.Proofs.Report.Faults

set_option autoImplicit false

/-!
# The levels of rows

A row has a value for each level that was put into it, the last one put in. In a report these are
the levels of the members of its tuple and, in a table, the measures on columns without the count
that is asked for. The totals of a table without rows have the measures only.

Main statements: the value of a row at a level is that of the last member of the level
(`getElem?_addMembers`), and the levels of reports come from their replies
(`levels_of_tableRows?`, `levels_of_dimensionRows?`).
-/

namespace CubeQuery.Report

open Cellset (Member Tuple Axis)

/-! ## Rows -/

section Inserted

variable {α β : Type} (key : α → String) (value : α → β)

/-- What was inserted last at a key is found there. -/
theorem getElem?_foldl_insert (xs : List α) (map : Std.TreeMap String β) (name : String) :
    (xs.foldl (fun map x => map.insert (key x) (value x)) map)[name]? =
      ((xs.filter fun x => key x == name).getLast?.map value).or map[name]? := by
  induction xs generalizing map with
  | nil => rfl
  | cons x rest ih =>
    rw [List.foldl_cons, ih, Std.TreeMap.getElem?_insert, List.filter_cons]
    -- An entry is found at its key unless a later one has the same key.
    by_cases hname : key x = name
    · rw [if_pos (Std.LawfulEqCmp.compare_eq_iff_eq.2 hname), if_pos (beq_iff_eq.2 hname),
        List.getLast?_cons]
      cases (rest.filter fun x => key x == name).getLast? with
      | none => rfl
      | some last => rfl
    · rw [if_neg (mt Std.LawfulEqCmp.compare_eq_iff_eq.1 hname),
        if_neg (mt beq_iff_eq.1 hname)]

/-- The keys of a map are those it was given. -/
theorem mem_foldl_insert_iff (xs : List α) (map : Std.TreeMap String β) (name : String) :
    name ∈ xs.foldl (fun map x => map.insert (key x) (value x)) map ↔
      (∃ x ∈ xs, key x = name) ∨ name ∈ map := by
  have hlast : (xs.filter fun x => key x == name).getLast?.isSome = true ↔
      ∃ x ∈ xs, key x = name := by
    simp [Option.isSome_iff_ne_none]
  rw [Std.TreeMap.mem_iff_isSome_getElem?, getElem?_foldl_insert, Option.isSome_or,
    Bool.or_eq_true, ← Std.TreeMap.mem_iff_isSome_getElem?, Option.isSome_map, hlast]

/-- A map that was given some entries only has those keys only. -/
theorem mem_foldl_insert_filter_iff (p : String → Bool) (xs : List α) (name : String) :
    name ∈ (xs.filter fun x => p (key x)).foldl (fun map x => map.insert (key x) (value x))
        (∅ : Std.TreeMap String β) ↔
      p name = true ∧ ∃ x ∈ xs, key x = name := by
  rw [mem_foldl_insert_iff]
  constructor
  · rintro (⟨x, hx, rfl⟩ | hempty)
    · obtain ⟨hmem, hp⟩ := List.mem_filter.1 hx
      exact ⟨hp, x, hmem, rfl⟩
    · exact absurd hempty Std.TreeMap.not_mem_emptyc
  · rintro ⟨hp, x, hmem, rfl⟩
    exact .inl ⟨x, List.mem_filter.2 ⟨hmem, hp⟩, rfl⟩

end Inserted

/-- The value of a row of members at a level is that of the last member of the level. -/
theorem getElem?_addMembers (members : List Member) (name : String) :
    (Row.addMembers ∅ members)[name]? =
      (members.filter fun member => member.level.name == name).getLast?.map (·.value) := by
  rw [Row.addMembers, getElem?_foldl_insert (fun member : Member => member.level.name)
    (fun member => member.value), Std.TreeMap.getElem?_emptyc, Option.or_none]

theorem mem_addMembers_iff (row : Row) (members : List Member) (name : String) :
    name ∈ row.addMembers members ↔
      (∃ member ∈ members, member.level.name = name) ∨ name ∈ row :=
  mem_foldl_insert_iff (fun member : Member => member.level.name) (·.value) members row name

/-- The levels of a row of a table are those of its members and its measures without the count. -/
theorem mem_rowOf_iff (includeTotalCount : Bool) (tuple : Tuple)
    (cells : List (String × Option Value)) (name : String) :
    name ∈ rowOf includeTotalCount tuple cells ↔
      (∃ member ∈ tuple.members, member.level.name = name) ∨
        isCount includeTotalCount name = false ∧ ∃ cell ∈ cells, cell.1 = name := by
  rw [rowOf, mem_addMembers_iff, mem_foldl_insert_filter_iff
    (fun cell : String × Option Value => cell.1) (fun cell => cell.2)
    (fun measure => !isCount includeTotalCount measure), Bool.not_eq_true']

/-- The levels of the totals of a table without rows are its measures without the count. -/
theorem mem_zeroTotals_iff (includeTotalCount : Bool) (measures : List String) (name : String) :
    name ∈ zeroTotals includeTotalCount measures ↔
      isCount includeTotalCount name = false ∧ name ∈ measures := by
  rw [zeroTotals, mem_foldl_insert_filter_iff (fun measure : String => measure)
    (fun _ => some (Value.number 0)) (fun measure => !isCount includeTotalCount measure),
    Bool.not_eq_true', exists_eq_right]

/-! ## Reports -/

/-- The totals that are reported are among those found. -/
theorem mem_of_checkTotals {includeTotals : Bool} {found : List Row} {totals : Option Row}
    (h : checkTotals includeTotals found = .ok totals) : ∀ row ∈ totals, row ∈ found := by
  intro row hrow
  cases found with
  | nil =>
    cases includeTotals with
    | false =>
      cases h
      cases hrow
    | true => cases h
  | cons first rest =>
    cases rest with
    | nil =>
      cases includeTotals with
      | false => cases h
      | true =>
        cases h
        cases hrow
        exact List.mem_cons_self
    | cons second others => cases h

/-- The levels of the rows and totals of a table are those of the members on rows and the measures
on columns without the count that is asked for. -/
theorem levels_of_tableRows? {c : Cellset} {includeTotals includeTotalCount : Bool}
    {report : Table Row} (h : tableRows? c includeTotals includeTotalCount = .ok report) :
    ∃ columns rows measures, c.columnAxis? = .ok columns ∧ c.rowAxis? = .ok rows ∧
      measureNames? columns.tuples = .ok measures ∧
      ∀ row ∈ report.rows ++ report.totals.toList, ∀ name ∈ row,
        (∃ tuple ∈ rows.tuples, ∃ member ∈ tuple.members, member.level.name = name) ∨
          isCount includeTotalCount name = false ∧ name ∈ measures := by
  obtain ⟨columns, hcolumns, h⟩ := steps_of_bind_eq_ok h
  obtain ⟨rows, hrows, h⟩ := steps_of_bind_eq_ok h
  obtain ⟨measures, hmeasures, h⟩ := steps_of_bind_eq_ok h
  obtain ⟨entries, hentries, h⟩ := steps_of_bind_eq_ok h
  rw [run'_mapM_readRow?] at hentries
  rw [List.partition_eq_filter_filter] at h
  obtain ⟨totals, htotals, h⟩ := steps_of_bind_eq_ok h
  cases h
  refine ⟨columns, rows, measures, hcolumns, hrows, hmeasures, ?_⟩
  -- Each entry is a row tuple, and the measures of the columns stand beside its values.
  have hentry : ∀ entry ∈ entries,
      ∀ name ∈ rowOf includeTotalCount entry.1 (measures.zip entry.2),
      (∃ tuple ∈ rows.tuples, ∃ member ∈ tuple.members, member.level.name = name) ∨
        isCount includeTotalCount name = false ∧ name ∈ measures := by
    intro entry hmem name hname
    obtain ⟨⟨tuple, r⟩, htuple, hread⟩ := exists_of_mem_mapM hentries hmem
    obtain ⟨values, -, hread⟩ := steps_of_bind_eq_ok hread
    cases hread
    rcases (mem_rowOf_iff _ _ _ _).1 hname with hmember | ⟨hcount, cell, hcell, rfl⟩
    · exact .inl ⟨tuple, List.fst_mem_of_mem_zipIdx htuple, hmember⟩
    · exact .inr ⟨hcount, (List.of_mem_zip hcell).1⟩
  intro row hrow
  rcases List.mem_append.1 hrow with hmem | hmem
  · obtain ⟨entry, hfound, rfl⟩ := List.mem_map.1 hmem
    exact hentry entry (List.mem_filter.1 hfound).1
  · have hfound := mem_of_checkTotals htotals row (Option.mem_toList.1 hmem)
    -- A reply without rows has no totals either; those that are made up have measures only.
    by_cases hnone : (rows.tuples.isEmpty && includeTotals) = true
    · rw [if_pos hnone, List.mem_singleton] at hfound
      rw [hfound]
      exact fun name hname => .inr ((mem_zeroTotals_iff _ _ _).1 hname)
    · rw [if_neg hnone] at hfound
      obtain ⟨entry, htotal, rfl⟩ := List.mem_map.1 hfound
      exact hentry entry (List.mem_filter.1 htotal).1

/-- The levels of the rows of a dimension are those of the members on rows. -/
theorem levels_of_dimensionRows? {c : Cellset} {includeTotalCount : Bool}
    {report : Report.Dimension Row} (h : dimensionRows? c includeTotalCount = .ok report) :
    ∃ rows, c.rowAxis? = .ok rows ∧ ∀ row ∈ report.rows, ∀ name ∈ row.data,
      ∃ tuple ∈ rows.tuples, ∃ member ∈ tuple.members, member.level.name = name := by
  obtain ⟨rows, hrows, -⟩ := steps_of_bind_eq_ok h
  refine ⟨rows, hrows, ?_⟩
  by_cases hfit : rows.tuples = [] ∨
      rows.tuples.length * (if includeTotalCount then 2 else 1) = c.cells.size
  · rw [dimensionRows?_eq_ok hrows hfit] at h
    cases h
    intro row hrow name hname
    obtain ⟨entry, hentry, rfl⟩ := List.mem_map.1 hrow
    obtain ⟨⟨tuple, r⟩, htuple, rfl⟩ := List.mem_map.1 hentry
    rcases (mem_addMembers_iff _ _ _).1 hname with hmember | hempty
    · exact ⟨tuple, List.fst_mem_of_mem_zipIdx htuple, hmember⟩
    · exact absurd hempty Std.TreeMap.not_mem_emptyc
  · rw [not_or] at hfit
    rw [dimensionRows?_eq_mismatch hrows hfit.1 hfit.2] at h
    cases h

end CubeQuery.Report
