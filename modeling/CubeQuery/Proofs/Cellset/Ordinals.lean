import CubeQuery.Proofs.Cellset.SparseCells

set_option autoImplicit false

/-!
# Cells and their ordinals

A cell with an ordinal belongs at that index. Cells are put one behind another, and gaps before an
ordinal are filled with empty cells; but cells that are in place do not move, so that an ordinal
that they already reach is passed over and its cell comes right behind them (`placement`).

Where cells are put decides both whether they are accepted and whether they are where they belong.
Only a place beyond the expected number of cells is refused. A repeated ordinal, or one that is
lower than those before it, is not refused for that.

Main statement: cells that are accepted stand at their ordinals exactly if the ordinals ascend
(`cells_at_ordinals_iff`). Descending ordinals that are accepted put a cell at the index of another
one (`descending_cell_misplaced`).
-/

namespace CubeQuery.Cellset

open Xml (Node)

/-! ## Places -/

/-- The index that an element's cell is put at behind `filled` cells: its ordinal, if that is not
among them, and the first free index otherwise. -/
def placeOf (filled : Nat) (element : Node) : Nat :=
  max filled ((ordinalOf? element).getD 0)

/-- Elements with the indices that their cells are put at, behind `filled` cells. -/
def placement (filled : Nat) : List Node → List (Nat × Node)
  | [] => []
  | element :: rest =>
    (placeOf filled element, element) :: placement (placeOf filled element + 1) rest

/-- Ordinals are higher than every index used before them, of which there are `filled`. -/
def Ascending (filled : Nat) : List Node → Prop
  | [] => True
  | element :: rest =>
    match ordinalOf? element with
    | some ordinal => filled ≤ ordinal ∧ Ascending (ordinal + 1) rest
    | none => Ascending (filled + 1) rest

/-- Every element with an ordinal is placed at it. -/
def AtOrdinals (placed : List (Nat × Node)) : Prop :=
  ∀ entry ∈ placed, ∀ ordinal, ordinalOf? entry.2 = some ordinal → entry.1 = ordinal

/-- The cells of elements at their places, and empty cells everywhere else. -/
structure Holds (cells : Array Cell) (placed : List (Nat × Node)) : Prop where
  at_place : ∀ entry ∈ placed, cells[entry.1]? = some (cellOf entry.2)
  elsewhere : ∀ index < cells.size, index ∉ placed.map Prod.fst → cells[index]? = some Cell.empty

theorem le_placeOf (filled : Nat) (element : Node) : filled ≤ placeOf filled element :=
  Nat.le_max_left _ _

/-- Cells are put behind those in place. -/
theorem le_of_mem_placement {filled : Nat} {elements : List Node} :
    ∀ entry ∈ placement filled elements, filled ≤ entry.1 := by
  induction elements generalizing filled with
  | nil => simp [placement]
  | cons element rest ih =>
    rw [placement, List.forall_mem_cons]
    refine ⟨le_placeOf filled element, fun entry hentry => ?_⟩
    have hnext : placeOf filled element + 1 ≤ entry.1 := ih entry hentry
    have hle := le_placeOf filled element
    omega

theorem placeOf_of_none {filled : Nat} {element : Node} (h : ordinalOf? element = none) :
    placeOf filled element = filled := by
  rw [placeOf, h, Option.getD_none, Nat.max_zero]

theorem placeOf_of_some {filled ordinal : Nat} {element : Node}
    (h : ordinalOf? element = some ordinal) : placeOf filled element = max filled ordinal := by
  rw [placeOf, h, Option.getD_some]

/-- Elements are placed at their ordinals exactly if these ascend. -/
theorem atOrdinals_placement_iff (filled : Nat) (elements : List Node) :
    AtOrdinals (placement filled elements) ↔ Ascending filled elements := by
  induction elements generalizing filled with
  | nil => simp [AtOrdinals, placement, Ascending]
  | cons element rest ih =>
    have hsplit : AtOrdinals (placement filled (element :: rest)) ↔
        (∀ ordinal, ordinalOf? element = some ordinal → placeOf filled element = ordinal) ∧
          AtOrdinals (placement (placeOf filled element + 1) rest) := by
      simp [AtOrdinals, placement]
    rw [hsplit, ih, Ascending]
    cases hordinal : ordinalOf? element with
    | none => simp [placeOf_of_none hordinal]
    | some ordinal =>
      have hhere : placeOf filled element = ordinal ↔ filled ≤ ordinal := by
        rw [placeOf_of_some hordinal]
        omega
      simp only [Option.some.injEq, forall_eq', hhere]
      -- Behind an ordinal that is kept the next free index is the one after it.
      refine and_congr_right fun hle => ?_
      rw [hhere.2 hle]

/-! ## One cell after another -/

/-- A cell is accepted exactly if its place is in range, and is then put there. -/
theorem placeCell_eq_ok_iff {size : Nat} {cells result : Array Cell} {element : Node} :
    placeCell size cells (ordinalOf? element, cellOf element) = .ok result ↔
      placeOf cells.size element < size ∧
        result = (padCells cells (placeOf cells.size element)).push (cellOf element) := by
  -- Where no gap is to be filled, the first free index is the place.
  have hbehind : ∀ place ≤ cells.size,
      ((if size ≤ cells.size then .error (.invalidResponse (.tooManyCells size))
        else .ok (cells.push (cellOf element)) : Except Error (Array Cell)) = .ok result ↔
      max cells.size place < size ∧
        result = (padCells cells (max cells.size place)).push (cellOf element)) := by
    intro place hplace
    rw [Nat.max_eq_left hplace, padCells_of_le (Nat.le_refl _)]
    by_cases hfull : size ≤ cells.size
    · simp [hfull, Nat.not_lt.2 hfull]
    · simp [hfull, Nat.not_le.1 hfull, eq_comm]
  cases hordinal : ordinalOf? element with
  | none =>
    rw [placeOf, hordinal]
    exact hbehind 0 (Nat.zero_le _)
  | some ordinal =>
    rw [placeOf_of_some hordinal]
    by_cases hrange : size ≤ ordinal
    · have hpad : padToOrdinal? size cells (some ordinal) =
          .error (.invalidResponse (.ordinalOutOfRange ordinal size)) := if_pos hrange
      have hout : ¬ max cells.size ordinal < size := by omega
      simp [placeCell, hpad, hout]
    · by_cases hgap : cells.size ≤ ordinal
      · rw [placeCell_of_ordinal (Nat.not_le.1 hrange) hgap, Nat.max_eq_right hgap]
        simp [Nat.not_le.1 hrange, eq_comm]
      · have hpad : padToOrdinal? size cells (some ordinal) = .ok (padCells cells ordinal) :=
          if_neg hrange
        have hle : ordinal ≤ cells.size := Nat.le_of_not_le hgap
        simp only [placeCell, hpad, padCells_of_le hle]
        exact hbehind ordinal hle

/-- Cells are accepted exactly if all their places are in range. -/
theorem foldlM_placeCell_isOk_iff (size : Nat) (elements : List Node) (cells : Array Cell) :
    (∃ result, (elements.map fun element => (ordinalOf? element, cellOf element)).foldlM
        (placeCell size) cells = .ok result) ↔
      ∀ entry ∈ placement cells.size elements, entry.1 < size := by
  induction elements generalizing cells with
  | nil => exact ⟨fun _ => nofun, fun _ => ⟨cells, rfl⟩⟩
  | cons element rest ih =>
    have hnext : ((padCells cells (placeOf cells.size element)).push (cellOf element)).size =
        placeOf cells.size element + 1 := by
      rw [Array.size_push, size_padCells (le_placeOf _ _)]
    rw [placement, List.forall_mem_cons, List.map_cons, List.foldlM_cons, ← hnext, ← ih]
    constructor
    · rintro ⟨result, hfold⟩
      obtain ⟨next, hplace, hfold⟩ := steps_of_bind_eq_ok hfold
      obtain ⟨hrange, rfl⟩ := placeCell_eq_ok_iff.1 hplace
      exact ⟨hrange, result, hfold⟩
    · rintro ⟨hrange, result, hfold⟩
      exact ⟨result, (bind_of_eq_ok (placeCell_eq_ok_iff.2 ⟨hrange, rfl⟩)).trans hfold⟩

/-! ## What is found at an index -/

/-- Filling up changes no cell: what was not there is empty. -/
theorem getD_padCells (cells : Array Cell) (size index : Nat) :
    (padCells cells size)[index]?.getD Cell.empty = cells[index]?.getD Cell.empty := by
  rw [padCells, Array.getElem?_append]
  split
  · rfl
  · next hout =>
    rw [Array.getElem?_replicate, Array.getElem?_eq_none (Nat.not_lt.1 hout)]
    split <;> rfl

/-- A cell is found at the index it is put at, and nothing changes elsewhere. -/
theorem getD_push_padCells {cells : Array Cell} {place : Nat} (h : cells.size ≤ place)
    (cell : Cell) (index : Nat) :
    ((padCells cells place).push cell)[index]?.getD Cell.empty =
      if index = place then cell else cells[index]?.getD Cell.empty := by
  rw [Array.getElem?_push, size_padCells h]
  split
  · rfl
  · exact getD_padCells cells place index

/-- Behind a run the cell of every element is at its place, and no other index has changed. -/
theorem getD_of_foldlM_placeCell {size : Nat} {elements : List Node} {cells result : Array Cell}
    (h : (elements.map fun element => (ordinalOf? element, cellOf element)).foldlM
      (placeCell size) cells = .ok result) :
    (∀ entry ∈ placement cells.size elements,
      result[entry.1]?.getD Cell.empty = cellOf entry.2) ∧
    ∀ index ∉ (placement cells.size elements).map Prod.fst,
      result[index]?.getD Cell.empty = cells[index]?.getD Cell.empty := by
  induction elements generalizing cells with
  | nil =>
    cases h
    exact ⟨nofun, fun _ _ => rfl⟩
  | cons element rest ih =>
    rw [List.map_cons, List.foldlM_cons] at h
    obtain ⟨next, hplace, h⟩ := steps_of_bind_eq_ok h
    obtain ⟨-, rfl⟩ := placeCell_eq_ok_iff.1 hplace
    have hle := le_placeOf cells.size element
    obtain ⟨hplaced, hkept⟩ := ih h
    rw [Array.size_push, size_padCells hle] at hplaced hkept
    rw [placement, List.forall_mem_cons, List.map_cons]
    refine ⟨⟨?_, hplaced⟩, ?_⟩
    · -- Later cells come behind this one.
      have hlater : placeOf cells.size element ∉
          (placement (placeOf cells.size element + 1) rest).map Prod.fst := by
        intro hmem
        obtain ⟨entry, hentry, heq⟩ := List.mem_map.1 hmem
        have hbehind := le_of_mem_placement entry hentry
        omega
      rw [hkept _ hlater, getD_push_padCells hle, if_pos rfl]
    · intro index hindex
      rw [List.mem_cons, not_or] at hindex
      rw [hkept index hindex.2, getD_push_padCells hle, if_neg hindex.1]

/-! ## Cells at their ordinals -/

/-- Cells that are read hold those of the elements at their places. -/
theorem holds_of_cellsOf? {node : Node} {size : Nat} {cells : Array Cell}
    (h : cellsOf? node size = .ok cells) :
    Holds cells (placement 0 (node.childrenCalled "Cell")) := by
  have hsize : cells.size = size := size_fillCells h
  have hfound : ∀ index < size, cells[index]? = some (cells[index]?.getD Cell.empty) := by
    intro index hindex
    rw [Array.getElem?_eq_getElem (hsize ▸ hindex)]
    rfl
  obtain ⟨result, hfold, hcells⟩ := steps_of_bind_eq_ok h
  cases hcells
  obtain ⟨hplaced, hkept⟩ := getD_of_foldlM_placeCell hfold
  refine ⟨fun entry hentry => ?_, fun index hindex hfree => ?_⟩
  · have hrange : entry.1 < size :=
      (foldlM_placeCell_isOk_iff size _ #[]).1 ⟨result, hfold⟩ entry hentry
    rw [hfound _ hrange, getD_padCells, hplaced entry hentry]
  · rw [hfound _ (hsize ▸ hindex), getD_padCells, hkept index hfree]
    rfl

/-- **Accepted cells stand at their ordinals exactly if the ordinals ascend.** A list of elements is
accepted exactly if the places of all of them are in range. Their cells are then at these places,
and the places are the ordinals, where there are any, exactly if each ordinal lies behind the places
before it. -/
theorem cells_at_ordinals_iff (node : Node) (size : Nat) :
    ((∃ cells, cellsOf? node size = .ok cells) ↔
      ∀ entry ∈ placement 0 (node.childrenCalled "Cell"), entry.1 < size) ∧
    ∀ cells, cellsOf? node size = .ok cells →
      Holds cells (placement 0 (node.childrenCalled "Cell")) ∧
      (AtOrdinals (placement 0 (node.childrenCalled "Cell")) ↔
        Ascending 0 (node.childrenCalled "Cell")) := by
  refine ⟨?_, fun cells hcells => ⟨holds_of_cellsOf? hcells, atOrdinals_placement_iff 0 _⟩⟩
  have haccepts := foldlM_placeCell_isOk_iff size (node.childrenCalled "Cell") #[]
  refine Iff.trans ⟨?_, ?_⟩ haccepts
  · rintro ⟨cells, hcells⟩
    obtain ⟨result, hfold, -⟩ := steps_of_bind_eq_ok hcells
    exact ⟨result, hfold⟩
  · rintro ⟨result, hfold⟩
    exact ⟨padCells result size, bind_of_eq_ok hfold⟩

/-- A cell with a text, and with an ordinal or without one. -/
private def valuedCell (ordinal : Option String) (text : String) : Node :=
  .element ⟨none, "Cell"⟩ (ordinal.map fun value => ⟨⟨none, "CellOrdinal"⟩, value⟩).toList
    [.element ⟨none, "Value"⟩ [] [.text text]]

/-- Two cells with ordinals and one between them. -/
private def ascendingElement : Node :=
  .element ⟨none, "CellData"⟩ []
    [valuedCell (some "1") "a", valuedCell none "b", valuedCell (some "4") "c"]

/-- Ordinals with gaps before them are kept. -/
theorem gapped_cells_at_ordinals : ∃ cells, cellsOf? ascendingElement 6 = .ok cells ∧
    Holds cells (placement 0 (ascendingElement.childrenCalled "Cell")) ∧
    AtOrdinals (placement 0 (ascendingElement.childrenCalled "Cell")) ∧
    cells[4]? = some (cellOf (valuedCell (some "4") "c")) := by
  obtain ⟨hholds, hiff⟩ := (cells_at_ordinals_iff ascendingElement 6).2 _ rfl
  have hascending : Ascending 0 (ascendingElement.childrenCalled "Cell") :=
    ⟨Nat.zero_le 1, Nat.le_succ 3, trivial⟩
  exact ⟨_, rfl, hholds, hiff.2 hascending, rfl⟩

/-- Of two cells the second one has the ordinal 0, and is put at the index 2. -/
theorem descending_cell_misplaced : ∃ cells,
    cellsOf? (.element ⟨none, "CellData"⟩ [] [valuedCell (some "1") "b", valuedCell (some "0") "a"])
      3 = .ok cells ∧
    ordinalOf? (valuedCell (some "0") "a") = some 0 ∧
    cells[2]? = some (cellOf (valuedCell (some "0") "a")) ∧
    cells[0]? = some Cell.empty ∧
    cells[0]? ≠ some (cellOf (valuedCell (some "0") "a")) :=
  ⟨_, rfl, rfl, rfl, rfl, nofun⟩

end CubeQuery.Cellset
