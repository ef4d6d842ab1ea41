import CubeQuery.Report.Chart
import CubeQuery.Report.Dimension

set_option autoImplicit false

/-!
# Cells at a running index

Reports read the cells of a reply one after another, at an index that runs along from row to row. As
every row has the same number of cells, the row with the number `r` finds the index at `r` times
that number, so that its cells can be found without the rows before it.

Main statements: what a traversal of rows reads, and what a fold over them does, by the numbers of
the rows (`run'_mapM_readRow?`, `run'_foldlM_addRow?`).
-/

namespace CubeQuery.Report

open Cellset (Tuple)

/-! ## Readers -/

namespace CellReader

variable {α β σ : Type} {reader : CellReader α} {outcome : Except Error α} {index next last : Nat}

/-- A reader comes to an outcome at an index and, unless that is an error, goes on to another. -/
def ComesTo (reader : CellReader α) (index : Nat) (outcome : Except Error α) (next : Nat) : Prop :=
  reader.run index = outcome.map (·, next)

theorem ComesTo.pure (a : α) (index : Nat) : ComesTo (pure a) index (.ok a) index :=
  rfl

/-- What reads nothing stays where it is. -/
theorem ComesTo.lift (outcome : Except Error α) (index : Nat) :
    ComesTo (liftM outcome) index outcome index := by
  cases outcome <;> rfl

/-- One reader after another goes on from where the first one stopped. -/
theorem ComesTo.bind {f : α → CellReader β} {g : α → Except Error β}
    (h : reader.ComesTo index outcome next) (hf : ∀ a, (f a).ComesTo next (g a) last) :
    ComesTo (reader >>= f) index (outcome >>= g) last := by
  rw [ComesTo, StateT.run_bind, h]
  cases outcome with
  | error e => rfl
  | ok a => exact hf a

theorem ComesTo.run' (h : reader.ComesTo index outcome next) : reader.run' index = outcome := by
  change Prod.fst <$> reader.run index = outcome
  rw [h]
  cases outcome <;> rfl

section Strides

variable {width : Nat}

/-- A traversal whose steps have equal numbers of cells finds those of a step by its number. -/
theorem ComesTo.mapM {read : α → CellReader β} {readAt : α → Nat → Except Error β}
    (h : ∀ a r, (read a).ComesTo (r * width) (readAt a r) ((r + 1) * width)) (xs : List α)
    (r : Nat) :
    ComesTo (xs.mapM read) (r * width) ((xs.zipIdx r).mapM fun entry => readAt entry.1 entry.2)
      ((r + xs.length) * width) := by
  -- The number of the first element is general: the rest starts with the next one.
  induction xs generalizing r with
  | nil => exact .pure [] _
  | cons x rest ih =>
    rw [List.mapM_cons, List.zipIdx_cons, List.mapM_cons, List.length_cons, ← Nat.add_assoc,
      Nat.add_right_comm]
    exact (h x r).bind fun b => (ih (r + 1)).bind fun bs => .pure (b :: bs) _

/-- A fold whose steps have equal numbers of cells finds those of a step by its number. -/
theorem ComesTo.foldlM {step : σ → α → CellReader σ} {stepAt : σ → α → Nat → Except Error σ}
    (h : ∀ s a r, (step s a).ComesTo (r * width) (stepAt s a r) ((r + 1) * width))
    (xs : List α) (s : σ) (r : Nat) :
    ComesTo (xs.foldlM step s) (r * width)
      ((xs.zipIdx r).foldlM (fun s entry => stepAt s entry.1 entry.2) s)
      ((r + xs.length) * width) := by
  induction xs generalizing s r with
  | nil => exact .pure s _
  | cons x rest ih =>
    rw [List.foldlM_cons, List.zipIdx_cons, List.foldlM_cons, List.length_cons, ← Nat.add_assoc,
      Nat.add_right_comm]
    exact (h s x r).bind fun s' => ih s' (r + 1)

end Strides

end CellReader

open CellReader (ComesTo)

/-! ## Cells of rows -/

/-- The values of `count` cells from an index on. -/
def cellValues? (c : Cellset) (start count : Nat) : Except Error (List (Option Value)) :=
  (List.range' start count).mapM c.cellValue?

theorem comesTo_nextValue? (c : Cellset) (index : Nat) :
    (nextValue? c).ComesTo index (c.cellValue? index) (index + 1) := by
  rw [ComesTo, nextValue?]
  cases h : c.cellValue? index <;> simp [h] <;> rfl

theorem comesTo_nextValues? (c : Cellset) (index count : Nat) :
    (nextValues? c count).ComesTo index (cellValues? c index count) (index + count) := by
  rw [nextValues?, cellValues?]
  induction count generalizing index with
  | zero => exact .pure [] index
  | succ count ih =>
    rw [List.replicate_succ, List.mapM_cons, List.range'_succ, List.mapM_cons, Nat.add_comm count,
      ← Nat.add_assoc]
    exact (comesTo_nextValue? c index).bind fun value =>
      (ih (index + 1)).bind fun values => .pure (value :: values) _

/-- The cells of a row are found by its number if all rows before it have as many. -/
theorem comesTo_nextValues?_of_row (c : Cellset) (width r : Nat) :
    (nextValues? c width).ComesTo (r * width) (cellValues? c (r * width) width)
      ((r + 1) * width) := by
  rw [Nat.succ_mul]
  exact comesTo_nextValues? c (r * width) width

/-- A traversal reads the cells of every row at a multiple of their number. -/
theorem run'_mapM_readRow? (c : Cellset) (width : Nat) (tuples : List Tuple) :
    (tuples.mapM (readRow? c width)).run' 0 =
      tuples.zipIdx.mapM fun entry => do
        let values ← cellValues? c (entry.2 * width) width
        return (entry.1, values) := by
  have hread := ComesTo.mapM (fun (tuple : Tuple) r => (comesTo_nextValues?_of_row c width r).bind
    fun values => ComesTo.pure (tuple, values) ((r + 1) * width)) tuples 0
  rw [Nat.zero_mul] at hread
  exact hread.run'

namespace Pivot

/-- Adds the row of a tuple, given with its number among the rows. -/
def addRowAt? (c : Cellset) (measures names : List String) (p : Pivot) (row : Tuple × Nat) :
    Except Error Pivot := do
  let member ← row.1.firstMember?
  let p ← p.turnTo? measures names member.value
  let values ← cellValues? c (row.2 * measures.length) measures.length
  p.put? measures (seriesNameOf row.1) (values.map fun value => value.bind Value.toNumber?)

theorem comesTo_addRow? (c : Cellset) (measures names : List String) (p : Pivot) (tuple : Tuple)
    (r : Nat) :
    (p.addRow? c measures names tuple).ComesTo (r * measures.length)
      (p.addRowAt? c measures names (tuple, r)) ((r + 1) * measures.length) := by
  rw [addRow?, addRowAt?]
  refine (ComesTo.lift _ _).bind fun member => (ComesTo.lift _ _).bind fun turned => ?_
  exact (comesTo_nextValues?_of_row c _ r).bind fun values => ComesTo.lift _ _

end Pivot

/-- A chart takes the cells of every row at a multiple of their number. -/
theorem run'_foldlM_addRow? (c : Cellset) (measures names : List String) (tuples : List Tuple)
    (p : Pivot) :
    (tuples.foldlM (Pivot.addRow? c measures names) p).run' 0 =
      tuples.zipIdx.foldlM (Pivot.addRowAt? c measures names) p := by
  have hrun := ComesTo.foldlM (Pivot.comesTo_addRow? c measures names) tuples p 0
  rw [Nat.zero_mul] at hrun
  exact hrun.run'

end CubeQuery.Report
