import CubeQuery.Json.Basic

set_option autoImplicit false

/-!
# Counts of a cellset

The shape of a cellset in numbers, as errors about missing parts report it.
-/

namespace CubeQuery.Cellset

/-- The shape of one axis. -/
structure AxisCounts where
  axisNumber : Nat
  tupleCount : Nat
  minMemberCount : Nat
  maxMemberCount : Nat
deriving DecidableEq, Repr, Inhabited

/-- The shape of a cellset. -/
structure Counts where
  axes : List AxisCounts
  axisCount : Nat
  cellCount : Nat
deriving DecidableEq, Repr, Inhabited

/-- The shape of the axis numbered `axisNumber`, given the member counts of its tuples. -/
def AxisCounts.ofMemberCounts (axisNumber : Nat) (memberCounts : List Nat) : AxisCounts where
  axisNumber := axisNumber
  tupleCount := memberCounts.length
  minMemberCount := memberCounts.min?.getD 0
  maxMemberCount := memberCounts.max?.getD 0

/-- The shape of an axis in words. -/
def AxisCounts.text (counts : AxisCounts) : String :=
  "axis " ++ toString counts.axisNumber ++ ": tupleCount=" ++ toString counts.tupleCount
    ++ ", memberCount=" ++ toString counts.minMemberCount ++ ".."
    ++ toString counts.maxMemberCount

/-- The shape of a cellset in words. -/
def Counts.text (counts : Counts) : String :=
  ", ".intercalate
    (("axisCount=" ++ toString counts.axisCount) :: ("cellCount=" ++ toString counts.cellCount)
      :: counts.axes.map AxisCounts.text)

/-- The shape of an axis in JSON. -/
def AxisCounts.toJson (counts : AxisCounts) : Json :=
  .object [("axisNumber", .integer counts.axisNumber),
    ("tupleCount", .integer counts.tupleCount),
    ("minMemberCount", .integer counts.minMemberCount),
    ("maxMemberCount", .integer counts.maxMemberCount)]

/-- The shape of a cellset in JSON. -/
def Counts.toJson (counts : Counts) : Json :=
  .object [("axes", .ofList AxisCounts.toJson counts.axes),
    ("axisCount", .integer counts.axisCount), ("cellCount", .integer counts.cellCount)]

end CubeQuery.Cellset
