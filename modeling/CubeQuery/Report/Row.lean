import CubeQuery.Cellset.Basic
import Std.Data.TreeMap

set_option autoImplicit false

/-!
# Rows

One row of a result: a value, or its absence, for each level expression, attributes and measures
alike, in the order of the expressions. The cells of rows are read one after another, at an index
that runs along. A count of rows is read from a value.
-/

namespace CubeQuery.Report

open Cellset (Member Tuple)

/-- Values by level expression. -/
abbrev Row := Std.TreeMap String (Option Value)

/-- The row with the values of members added; a later member of a level wins. -/
def Row.addMembers (row : Row) (members : List Member) : Row :=
  members.foldl (fun row member => row.insert member.level.name member.value) row

/-- A row as a JSON object. -/
def Row.toJson (row : Row) : Json :=
  .object (row.toList.map fun (name, value) => (name, .ofOption Value.toJson value))

/-- What reads cells one after another; the state is the index of the next cell. -/
abbrev CellReader := StateT Nat (Except Error)

/-- The value of the next cell. -/
def nextValue? (c : Cellset) : CellReader (Option Value) := do
  let index ← get
  let value ← c.cellValue? index
  set (index + 1)
  return value

/-- The values of the next `count` cells. -/
def nextValues? (c : Cellset) (count : Nat) : CellReader (List (Option Value)) :=
  (List.replicate count ()).mapM fun _ => nextValue? c

/-- A row tuple with the values of its cells, which are the next `width` ones. -/
def readRow? (c : Cellset) (width : Nat) (tuple : Tuple) :
    CellReader (Tuple × List (Option Value)) := do
  return (tuple, ← nextValues? c width)

/-- The number of rows that a value stands for: 0 unless it is a positive number. -/
def countOf (value : Option Value) : UInt64 :=
  match value.bind Value.toNumber? with
  | some x => if x.isFinite && 0 < x then x.toUInt64 else 0
  | none => 0

end CubeQuery.Report
