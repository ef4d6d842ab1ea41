import CubeQuery.Cellset.Counts
import CubeQuery.Error
import CubeQuery.Mdx.Expr

set_option autoImplicit false

/-!
# Cellsets

The reply to a statement: axes of tuples of members, and cells. The first axis holds the columns,
the second the rows, and the cells are listed row by row.
-/

namespace CubeQuery

open Mdx (Level)

namespace Cellset

/-- A member of a tuple. Level number 0 is that of aggregate members and of measures. -/
structure Member where
  isMeasure : Bool
  level : Level
  levelNumber : UInt32
  caption : Option String
  value : Option Value
deriving Inhabited

/-- A tuple of members. -/
structure Tuple where
  members : List Member
deriving Inhabited

/-- The first member of a tuple. -/
def Tuple.firstMember? (tuple : Tuple) : Except Error Member :=
  match tuple.members.head? with
  | some member => .ok member
  | none => .error (.invalidResponse .noMembers)

/-- The last member of a tuple. -/
def Tuple.lastMember? (tuple : Tuple) : Except Error Member :=
  match tuple.members.getLast? with
  | some member => .ok member
  | none => .error (.invalidResponse .noMembers)

/-- An axis of tuples. -/
structure Axis where
  tuples : List Tuple
deriving Inhabited

/-- The first tuple of an axis. -/
def Axis.firstTuple? (axis : Axis) : Except Error Tuple :=
  match axis.tuples.head? with
  | some tuple => .ok tuple
  | none => .error (.invalidResponse .noTuples)

/-- The last tuple of an axis. -/
def Axis.lastTuple? (axis : Axis) : Except Error Tuple :=
  match axis.tuples.getLast? with
  | some tuple => .ok tuple
  | none => .error (.invalidResponse .noTuples)

/-- A cell with its value and the value's formatted text. -/
structure Cell where
  value : Option Value
  formattedValue : Option String
deriving Inhabited

/-- The cell that a server leaves out. -/
def Cell.empty : Cell :=
  ⟨none, none⟩

end Cellset

/-- A decoded reply. -/
structure Cellset where
  axes : List Cellset.Axis
  cells : Array Cellset.Cell
deriving Inhabited

namespace Cellset

/-- The shape of a cellset. -/
def counts (c : Cellset) : Counts where
  axes := c.axes.mapIdx fun axisNumber axis =>
    AxisCounts.ofMemberCounts axisNumber (axis.tuples.map fun tuple => tuple.members.length)
  axisCount := c.axes.length
  cellCount := c.cells.size

/-- The axis of the columns. -/
def columnAxis? (c : Cellset) : Except Error Axis :=
  match c.axes[0]? with
  | some axis => .ok axis
  | none => .error (.invalidResponse (.noColumnAxis c.counts))

/-- The axis of the rows. -/
def rowAxis? (c : Cellset) : Except Error Axis :=
  match c.axes[1]? with
  | some axis => .ok axis
  | none => .error (.invalidResponse (.noRowAxis c.counts))

/-- The cell at an index. -/
def cell? (c : Cellset) (index : Nat) : Except Error Cell :=
  match c.cells[index]? with
  | some cell => .ok cell
  | none => .error (.invalidResponse (.noCell index c.counts))

/-- The value of the cell at an index. -/
def cellValue? (c : Cellset) (index : Nat) : Except Error (Option Value) :=
  (c.cell? index).map (·.value)

end Cellset

end CubeQuery
