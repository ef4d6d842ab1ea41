import CubeQuery.Proofs.Cellset.Density
import CubeQuery.Report.Layout
import CubeQuery.Report.PropertyMap

set_option autoImplicit false

/-!
# What reports fail with

A report is read from a reply, and whatever is wrong with it concerns the reply: its axes, its
tuples, its cells, or the records that its rows are to fill.

Main statements: every error of a report is a fault of the cellset (`tableRows?_fault`,
`dimensionRows?_fault`, `chart?_fault`, `fill?_fault`), and every error of a record a fault of the
response (`record?_fault`).
-/

namespace CubeQuery

/-- Whether an error is a fault of the response. -/
def Error.IsResponseFault (e : Error) : Prop :=
  ∃ fault, e = .invalidResponse fault

theorem Error.isConstruction_of_isResponseFault {e : Error} (h : e.IsResponseFault) :
    e.isConstruction = false := by
  obtain ⟨fault, rfl⟩ := h
  rfl

/-- Whether a fault concerns the records that rows are to fill. -/
def ResponseFault.concernsRecord : ResponseFault → Bool
  | unexpectedLevel _ | misfit => true
  | _ => false

/-- Whether an error is a fault of the cellset of a response. -/
def Error.IsCellsetFault (e : Error) : Prop :=
  ∃ fault, e = .invalidResponse fault ∧ fault.concernsRecord = false

theorem Error.isResponseFault_of_isCellsetFault {e : Error} (h : e.IsCellsetFault) :
    e.IsResponseFault := by
  obtain ⟨fault, rfl, -⟩ := h
  exact ⟨fault, rfl⟩

theorem Error.isCellsetFault_of_isUnprepared {e : Error} (h : e.isUnprepared = true) :
    e.IsCellsetFault := by
  obtain ⟨name, rfl⟩ | ⟨name, rfl⟩ := e.isUnprepared_iff.1 h
  · exact ⟨_, rfl, rfl⟩
  · exact ⟨_, rfl, rfl⟩

/-- An outcome that fails with a fault of the cellset. -/
theorem failsOnly_cellsetFault {α : Type} {fault : ResponseFault}
    (h : fault.concernsRecord = false) :
    FailsOnly Error.IsCellsetFault (.error (.invalidResponse fault) : Except Error α) :=
  FailsOnly.error ⟨fault, rfl, h⟩

namespace Report

open Cellset (Cell Tuple)

/-! ## Parts of a reply -/

theorem columnAxis?_fault (c : Cellset) : FailsOnly Error.IsCellsetFault c.columnAxis? :=
  (columnAxis?_failsOnly c).mono fun _ he => ⟨_, he, rfl⟩

theorem rowAxis?_fault (c : Cellset) : FailsOnly Error.IsCellsetFault c.rowAxis? :=
  (rowAxis?_failsOnly c).mono fun _ he => ⟨_, he, rfl⟩

theorem firstMember?_fault (tuple : Tuple) :
    FailsOnly Error.IsCellsetFault tuple.firstMember? :=
  (firstMember?_failsOnly tuple).mono fun _ he => ⟨_, he, rfl⟩

theorem measureNames?_fault (columns : List Tuple) :
    FailsOnly Error.IsCellsetFault (measureNames? columns) :=
  (measureNames?_failsOnly columns).mono fun _ he => ⟨_, he, rfl⟩

theorem checkTotals_fault (includeTotals : Bool) (found : List Row) :
    FailsOnly Error.IsCellsetFault (checkTotals includeTotals found) := by
  refine (checkTotals_failsOnly includeTotals found).mono ?_
  rintro _ ⟨fault, hfault, rfl⟩
  simp only [List.mem_cons, List.not_mem_nil, or_false] at hfault
  rcases hfault with rfl | rfl | rfl
  · exact ⟨_, rfl, rfl⟩
  · exact ⟨_, rfl, rfl⟩
  · exact ⟨_, rfl, rfl⟩

theorem cellValues?_fault (c : Cellset) (start count : Nat) :
    FailsOnly Error.IsCellsetFault (cellValues? c start count) := by
  refine (cellValues?_failsOnly c start count).mono ?_
  rintro _ ⟨index, rfl⟩
  exact ⟨_, rfl, rfl⟩

/-! ## Reports -/

theorem tableRows?_fault (c : Cellset) (includeTotals includeTotalCount : Bool) :
    FailsOnly Error.IsCellsetFault (tableRows? c includeTotals includeTotalCount) := by
  rw [tableRows?]
  refine FailsOnly.bind (columnAxis?_fault c) fun columns _ => ?_
  refine FailsOnly.bind (rowAxis?_fault c) fun rows _ => ?_
  refine FailsOnly.bind (measureNames?_fault _) fun measures _ => ?_
  rw [run'_mapM_readRow?]
  refine FailsOnly.bind (FailsOnly.mapM fun entry _ => ?_) fun cells _ => ?_
  · exact FailsOnly.bind (cellValues?_fault c _ _) fun _ _ => FailsOnly.ok _
  · exact FailsOnly.bind (checkTotals_fault _ _) fun _ _ => FailsOnly.ok _

theorem dimensionRows?_fault (c : Cellset) (includeTotalCount : Bool) :
    FailsOnly Error.IsCellsetFault (dimensionRows? c includeTotalCount) := by
  refine (dimensionRows?_failsOnly c includeTotalCount).mono ?_
  rintro _ (rfl | ⟨expected, rfl⟩)
  · exact ⟨_, rfl, rfl⟩
  · exact ⟨_, rfl, rfl⟩

theorem chart?_fault (c : Cellset) : FailsOnly Error.IsCellsetFault (chart? c) :=
  chart?_failsOnly (columnAxis?_fault c) (rowAxis?_fault c) firstMember?_fault
    (fun _ => Error.isCellsetFault_of_isUnprepared) fun _ _ _ _ _ _ _ _ => cellValues?_fault c _ _

/-! ## Laid out tables -/

section Layouts

variable {α ε : Type}

theorem fillCells?_fault (cells : List (LayoutCell α)) (columns : List (Tuple × Cell)) :
    FailsOnly Error.IsCellsetFault (Layout.fillCells? cells columns) := by
  induction cells generalizing columns with
  | nil => exact FailsOnly.ok _
  | cons cell rest ih =>
    cases cell with
    | given content => exact FailsOnly.bind (ih columns) fun _ _ => FailsOnly.ok _
    | measured measure compute =>
      cases columns with
      | nil => exact failsOnly_cellsetFault rfl
      | cons column others =>
        refine FailsOnly.bind (firstMember?_fault column.1) fun _ _ => ?_
        exact FailsOnly.bind (ih others) fun _ _ => FailsOnly.ok _

theorem fillRows?_fault (rows : List (LayoutRow α ε)) (columns : List (Tuple × Cell)) :
    FailsOnly Error.IsCellsetFault (Layout.fillRows? rows columns) := by
  induction rows generalizing columns with
  | nil => exact FailsOnly.ok _
  | cons row rest ih =>
    refine FailsOnly.bind (fillCells?_fault row.cells columns) fun filled _ => ?_
    exact FailsOnly.bind (ih filled.2) fun _ _ => FailsOnly.ok _

theorem fill?_fault (layout : Layout α ε) (c : Cellset) :
    FailsOnly Error.IsCellsetFault (layout.fill? c) := by
  rw [Layout.fill?]
  refine FailsOnly.bind (columnAxis?_fault c) fun columns _ => ?_
  simp only []
  split
  · exact failsOnly_cellsetFault rfl
  · split
    · exact failsOnly_cellsetFault rfl
    · split
      · exact FailsOnly.ok _
      · exact fillRows?_fault _ _

end Layouts

/-! ## Records -/

section Records

variable {α β : Type}

/-- A property is found for the levels of a map. -/
theorem property?_eq_none_iff (map : PropertyMap) (expression : String) :
    map.property? expression = none ↔ expression ∉ map.expressions := by
  rw [PropertyMap.property?, Option.map_eq_none_iff, List.find?_eq_none, PropertyMap.expressions,
    List.mem_map]
  constructor
  · rintro h ⟨entry, hentry, rfl⟩
    exact h entry hentry (beq_self_eq_true _)
  · intro h entry hentry heq
    exact h ⟨entry, hentry, beq_iff_eq.1 heq⟩

/-- The fields of a row fail on a level of the row that the map does not have. -/
theorem fields?_failsOnly (map : PropertyMap) (row : Row) :
    FailsOnly (fun e => ∃ name ∈ row, name ∉ map.expressions ∧
      e = .invalidResponse (.unexpectedLevel name)) (map.fields? row) := by
  apply FailsOnly.foldlM
  rintro ⟨name, value⟩ hentry fields
  have hvalue : row[name]? = some value := Std.TreeMap.mem_toList_iff_getElem?_eq_some.1 hentry
  simp only []
  cases hproperty : map.property? name with
  | none =>
    refine FailsOnly.error ⟨name, ?_, (property?_eq_none_iff map name).1 hproperty, rfl⟩
    rw [Std.TreeMap.mem_iff_isSome_getElem?, hvalue]
    rfl
  | some property => exact FailsOnly.ok _

/-- A record fails on its fields or on their form. -/
theorem record?_failsOnly (map : PropertyMap) (read? : Json → Option α) (row : Row) :
    FailsOnly (fun e => e = .invalidResponse .misfit ∨ ∃ name ∈ row, name ∉ map.expressions ∧
      e = .invalidResponse (.unexpectedLevel name)) (map.record? read? row) := by
  refine FailsOnly.bind ((fields?_failsOnly map row).mono fun _ => Or.inr) fun fields _ => ?_
  cases read? (.object fields) with
  | none => exact FailsOnly.error (.inl rfl)
  | some record => exact FailsOnly.ok _

theorem record?_fault (map : PropertyMap) (read? : Json → Option α) (row : Row) :
    FailsOnly Error.IsResponseFault (map.record? read? row) := by
  refine (record?_failsOnly map read? row).mono ?_
  rintro _ (rfl | ⟨name, -, -, rfl⟩)
  · exact ⟨_, rfl⟩
  · exact ⟨_, rfl⟩

/-- A report fails to be passed through a function as one of its rows does. -/
theorem dimension_mapM?_failsOnly {P : Error → Prop} {f : α → Except Error β}
    {report : Report.Dimension α} (h : ∀ row ∈ report.rows, FailsOnly P (f row.data)) :
    FailsOnly P (report.mapM? f) :=
  FailsOnly.bind (FailsOnly.mapM fun row hrow => (h row hrow).map _) fun _ _ => FailsOnly.ok _

/-- A report fails to be passed through a function as one of its rows or its totals do. -/
theorem table_mapM?_failsOnly {P : Error → Prop} {f : α → Except Error β}
    {report : Report.Table α}
    (h : ∀ row ∈ report.rows ++ report.totals.toList, FailsOnly P (f row)) :
    FailsOnly P (report.mapM? f) := by
  rw [List.forall_mem_append] at h
  refine FailsOnly.bind (FailsOnly.mapM h.1) fun rows _ => ?_
  refine FailsOnly.bind ?_ fun totals _ => FailsOnly.ok _
  cases htotals : report.totals with
  | none => exact FailsOnly.ok _
  | some totals =>
    rw [htotals] at h
    exact FailsOnly.map _ (h.2 totals List.mem_cons_self)

end Records

end Report

end CubeQuery
