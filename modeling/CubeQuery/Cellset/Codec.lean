import CubeQuery.Cellset.Basic
import CubeQuery.Json.Record

set_option autoImplicit false

/-!
# Cellsets in JSON

How cellsets and their parts are written to JSON and read from it. Absent captions and values are
written as null.
-/

namespace CubeQuery.Cellset

open Mdx (Level)

/-- A member in JSON. -/
def Member.toJson (m : Member) : Json :=
  .object [("isMeasure", .bool m.isMeasure), ("levelExpression", .text m.level.name),
    ("levelNumber", .integer m.levelNumber.toNat), ("caption", .ofOption .text m.caption),
    ("value", .ofOption Value.toJson m.value)]

/-- The member that JSON gives. -/
def Member.ofJson? (json : Json) : Option Member := do
  let r ← json.record? ["isMeasure", "levelExpression", "levelNumber", "caption", "value"]
  let isMeasure ← r.required "isMeasure" Json.bool?
  let name ← r.required "levelExpression" Json.text?
  let levelNumber ← r.required "levelNumber" Json.count32?
  let caption ← r.nullable "caption" Json.text?
  let value ← r.nullable "value" Value.ofJson?
  some ⟨isMeasure, ⟨name⟩, levelNumber, caption, value⟩

/-- A tuple in JSON. -/
def Tuple.toJson (t : Tuple) : Json :=
  .object [("members", .ofList Member.toJson t.members)]

/-- The tuple that JSON gives. -/
def Tuple.ofJson? (json : Json) : Option Tuple := do
  let r ← json.record? ["members"]
  (r.required "members" (Json.list? Member.ofJson?)).map Tuple.mk

/-- An axis in JSON. -/
def Axis.toJson (a : Axis) : Json :=
  .object [("tuples", .ofList Tuple.toJson a.tuples)]

/-- The axis that JSON gives. -/
def Axis.ofJson? (json : Json) : Option Axis := do
  let r ← json.record? ["tuples"]
  (r.required "tuples" (Json.list? Tuple.ofJson?)).map Axis.mk

/-- A cell in JSON. -/
def Cell.toJson (c : Cell) : Json :=
  .object [("value", .ofOption Value.toJson c.value),
    ("formattedValue", .ofOption .text c.formattedValue)]

/-- The cell that JSON gives. -/
def Cell.ofJson? (json : Json) : Option Cell := do
  let r ← json.record? ["value", "formattedValue"]
  let value ← r.nullable "value" Value.ofJson?
  let formattedValue ← r.nullable "formattedValue" Json.text?
  some ⟨value, formattedValue⟩

/-- A cellset in JSON. -/
def toJson (c : Cellset) : Json :=
  .object [("axes", .ofList Axis.toJson c.axes), ("cells", .ofList Cell.toJson c.cells.toList)]

/-- The cellset that JSON gives. -/
def ofJson? (json : Json) : Option Cellset := do
  let r ← json.record? ["axes", "cells"]
  let axes ← r.required "axes" (Json.list? Axis.ofJson?)
  let cells ← r.required "cells" (Json.list? Cell.ofJson?)
  some ⟨axes, cells.toArray⟩

end CubeQuery.Cellset
