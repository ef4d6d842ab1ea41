import CubeQuery.Cellset.Decode
import CubeQuery.Proofs.Outcome

set_option autoImplicit false

/-!
# Cells that are left out

Cells without content need not be written. What is written of a list of cells is a list of elements,
each numbered by its index unless it stands right behind the element of the cell before it or is the
first cell (`SparseForm`). Any cells without content may be left out, at the beginning, between
others and at the end, and any number that may be left out may also be given.

Reading goes from one element to the next. Behind each of them the cells up to its index are in
place, and a gap is filled only when the next element comes or all have been read; so at every index
the cells in place, filled up to there, are the cells before it.

Main statement: cells are read back from every form they are written in (`cellsOf?_of_sparseForm`).
-/

namespace CubeQuery.Cellset

open Xml (Node)

/-! ## Sparse forms -/

/-- Elements that cells may be written as, from an index on. Whether the cell before that index was
written decides whether the next one needs a number. -/
inductive SparseForm : (index : Nat) → (adjoins : Bool) → List Cell → List Node → Prop where
  | done {index : Nat} {adjoins : Bool} : SparseForm index adjoins [] []
  | gap {index : Nat} {adjoins : Bool} {cells : List Cell} {elements : List Node}
    (rest : SparseForm (index + 1) false cells elements) :
    SparseForm index adjoins (Cell.empty :: cells) elements
  | numbered {index : Nat} {adjoins : Bool} {cell : Cell} {cells : List Cell} {element : Node}
    {elements : List Node} (content : cellOf element = cell)
    (ordinal : element.attribute? "CellOrdinal" = some (toString index))
    (rest : SparseForm (index + 1) true cells elements) :
    SparseForm index adjoins (cell :: cells) (element :: elements)
  | unnumbered {index : Nat} {cell : Cell} {cells : List Cell} {element : Node}
    {elements : List Node} (content : cellOf element = cell)
    (ordinal : element.attribute? "CellOrdinal" = none)
    (rest : SparseForm (index + 1) true cells elements) :
    SparseForm index true (cell :: cells) (element :: elements)

/-! ## Ordinals -/

/-- An ordinal is read back from its decimal digits. -/
theorem ordinalOf?_of_attribute {element : Node} {index : Nat} (hindex : index < UInt64.size)
    (h : element.attribute? "CellOrdinal" = some (toString index)) :
    ordinalOf? element = some index := by
  have hchars : (toString index).toList = Nat.toDigits 10 index := by
    rw [Nat.toString_eq_repr, Nat.toList_repr]
  have htrim : Text.trimChars (Nat.toDigits 10 index) = Nat.toDigits 10 index := by
    apply Text.trimChars_eq_self
    intro c hc
    exact Text.isBlank_of_isDigit (Nat.isDigit_of_mem_toDigits (by decide) (by decide) hc)
  rw [ordinalOf?, h, Option.bind_some, hchars, htrim, Decimal.count64?_toDigits hindex,
    Option.map_some, UInt64.toNat_ofNat_of_lt' hindex]

theorem ordinalOf?_of_attribute_eq_none {element : Node}
    (h : element.attribute? "CellOrdinal" = none) : ordinalOf? element = none := by
  rw [ordinalOf?, h, Option.bind_none]

/-! ## Filled gaps -/

/-- Cells that reach a size are not filled up to it. -/
theorem padCells_of_le {cells : Array Cell} {size : Nat} (h : size ≤ cells.size) :
    padCells cells size = cells := by
  rw [padCells, Nat.sub_eq_zero_of_le h, Array.replicate_zero, Array.append_empty]

/-- Filling up by one more cell puts an empty one behind the others. -/
theorem padCells_succ {cells : Array Cell} {size : Nat} (h : cells.size ≤ size) :
    padCells cells (size + 1) = padCells cells size ++ #[Cell.empty] := by
  rw [padCells, padCells, Nat.succ_sub h, Array.replicate_succ, Array.push_eq_append,
    Array.append_assoc]

theorem size_padCells {cells : Array Cell} {size : Nat} (h : cells.size ≤ size) :
    (padCells cells size).size = size := by
  rw [padCells, Array.size_append, Array.size_replicate, Nat.add_sub_cancel' h]

/-! ## One element after another -/

/-- A numbered cell fills the gap before it. -/
theorem placeCell_of_ordinal {size index : Nat} {placed : Array Cell} (hindex : index < size)
    (hplaced : placed.size ≤ index) (cell : Cell) :
    placeCell size placed (some index, cell) = .ok ((padCells placed index).push cell) := by
  have hpad : padToOrdinal? size placed (some index) = .ok (padCells placed index) :=
    if_neg (Nat.not_le.2 hindex)
  have hroom : ¬ size ≤ (padCells placed index).size := by
    rw [size_padCells hplaced]
    exact Nat.not_le.2 hindex
  simp only [placeCell, hpad, hroom, if_false]

/-- A cell without a number is put behind the cells in place. -/
theorem placeCell_of_none {size : Nat} {placed : Array Cell} (h : placed.size < size)
    (cell : Cell) : placeCell size placed (none, cell) = .ok (placed.push cell) :=
  if_neg (Nat.not_le.2 h)

/-- Reading a sparse form puts its cells behind those in place, filled up to where it begins. -/
theorem foldlM_placeCell_of_sparseForm {size index : Nat} {adjoins : Bool} {cells : List Cell}
    {elements : List Node} (h : SparseForm index adjoins cells elements) {placed : Array Cell}
    (hend : index + cells.length = size) (hsize : size ≤ UInt64.size)
    (hplaced : placed.size ≤ index) (hadjoins : adjoins = true → placed.size = index) :
    ∃ result,
      (elements.map fun element => (ordinalOf? element, cellOf element)).foldlM (placeCell size)
          placed = .ok result ∧
        padCells result size = padCells placed index ++ cells.toArray := by
  induction h generalizing placed with
  | done =>
    refine ⟨placed, rfl, ?_⟩
    rw [← hend]
    exact (Array.append_empty).symm
  | @gap index adjoins cells elements rest ih =>
    rw [List.length_cons] at hend
    obtain ⟨result, hfold, hresult⟩ := @ih placed (by omega) (Nat.le_succ_of_le hplaced) nofun
    refine ⟨result, hfold, ?_⟩
    rw [hresult, padCells_succ hplaced, Array.append_assoc]
    simp
  | @numbered index adjoins cell cells element elements content ordinal rest ih =>
    rw [List.length_cons] at hend
    have hnext : ((padCells placed index).push cell).size = index + 1 := by
      rw [Array.size_push, size_padCells hplaced]
    obtain ⟨result, hfold, hresult⟩ :=
      @ih ((padCells placed index).push cell) (by omega) (Nat.le_of_eq hnext) fun _ => hnext
    refine ⟨result, ?_, ?_⟩
    · rw [List.map_cons, List.foldlM_cons, content,
        ordinalOf?_of_attribute (by omega) ordinal, placeCell_of_ordinal (by omega) hplaced]
      exact hfold
    · rw [hresult, padCells_of_le (Nat.le_of_eq hnext.symm)]
      simp
  | @unnumbered index cell cells element elements content ordinal rest ih =>
    rw [List.length_cons] at hend
    have hhere : placed.size = index := hadjoins rfl
    have hnext : (placed.push cell).size = index + 1 := by
      rw [Array.size_push, hhere]
    obtain ⟨result, hfold, hresult⟩ :=
      @ih (placed.push cell) (by omega) (Nat.le_of_eq hnext) fun _ => hnext
    refine ⟨result, ?_, ?_⟩
    · rw [List.map_cons, List.foldlM_cons, content, ordinalOf?_of_attribute_eq_none ordinal,
        placeCell_of_none (by omega)]
      exact hfold
    · -- Nothing is missing before the index, so that nothing was to be filled.
      rw [hresult, padCells_of_le (Nat.le_of_eq hnext.symm),
        padCells_of_le (Nat.le_of_eq hhere.symm)]
      simp

/-! ## Reading back -/

/-- **Cells are read back from every sparse form.** Ordinals are numbers of 64 bits, and there are
no more cells than these number. -/
theorem cellsOf?_of_sparseForm {node : Node} {cells : Array Cell}
    (hsize : cells.size ≤ UInt64.size)
    (hform : SparseForm 0 true cells.toList (node.childrenCalled "Cell")) :
    cellsOf? node cells.size = .ok cells := by
  have hend : 0 + cells.toList.length = cells.size := by
    rw [Nat.zero_add, Array.length_toList]
  have hempty : (#[] : Array Cell).size ≤ 0 := Nat.le_refl 0
  obtain ⟨result, hfold, hresult⟩ :=
    foldlM_placeCell_of_sparseForm hform hend hsize hempty fun _ => rfl
  rw [cellsOf?, fillCells, hfold]
  refine congrArg Except.ok (hresult.trans ?_)
  rw [padCells_of_le (Nat.zero_le _)]
  simp

/-- An element with a text as its value, and with an ordinal or without one. -/
private def textCell (ordinal : Option String) (text : String) : Node :=
  .element ⟨none, "Cell"⟩ (ordinal.map fun value => ⟨⟨none, "CellOrdinal"⟩, value⟩).toList
    [.element ⟨none, "Value"⟩ [] [.text text]]

/-- Six cells, three of them without content. -/
private def gappedCells : Array Cell :=
  #[Cell.empty, ⟨some (.text "a"), none⟩, ⟨some (.text "b"), none⟩, Cell.empty,
    ⟨some (.text "c"), none⟩, Cell.empty]

/-- The other three of them as elements; the second needs no number. -/
private def gappedElement : Node :=
  .element ⟨none, "CellData"⟩ []
    [textCell (some "1") "a", .text " ", textCell none "b", textCell (some "4") "c"]

/-- Gaps before, between and behind the cells that are written. -/
theorem gapped_cells_read_back :
    gappedCells.size ≤ UInt64.size ∧
      SparseForm 0 true gappedCells.toList (gappedElement.childrenCalled "Cell") ∧
      cellsOf? gappedElement gappedCells.size = .ok gappedCells := by
  have hsize : gappedCells.size ≤ UInt64.size := by decide
  have hform : SparseForm 0 true gappedCells.toList (gappedElement.childrenCalled "Cell") :=
    .gap (.numbered rfl rfl (.unnumbered rfl rfl (.gap (.numbered rfl rfl (.gap .done)))))
  exact ⟨hsize, hform, cellsOf?_of_sparseForm hsize hform⟩

end CubeQuery.Cellset
