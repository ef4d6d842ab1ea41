import CubeQuery.Cellset.Basic
import CubeQuery.Xml.Document

set_option autoImplicit false

/-!
# Cellsets from XML

Reading the multidimensional form of a cellset: an element with axes and cell data. Elements are
known by their local names, whatever their namespace, and everything else is passed over. Cells may
be left out; a cell with an ordinal stands at that index unless cells before it already reach it,
and a cell without one follows the cell before it.

Main statement: a filled list of cells has the expected length (`size_fillCells`).
-/

namespace CubeQuery.Cellset

open Xml (Node)

/-- The types whose values are numbers. -/
def numericTypes : List String :=
  ["double", "int", "long", "short", "unsignedInt"]

/-- What follows the last colon of a text; all of it without a colon. -/
def afterColon (s : String) : String :=
  String.ofList (Text.takeTrailing (· != ':') s.toList)

/-- Whether an element is annotated with a numeric type. -/
def isNumeric (node : Node) : Bool :=
  match node.attributes.find? fun a => a.name.localName == "type" with
  | some a => numericTypes.contains (afterColon a.value)
  | none => false

/--
The value that an element with the text `raw` holds: a number if it is annotated so and the text is
a numeral, nothing if it is annotated so and the text is blank, and the text otherwise.
-/
def valueOf (node : Node) (raw : String) : Option Value :=
  if isNumeric node then
    let trimmed := Text.trimChars raw.toList
    if trimmed.isEmpty then none
    else
      match Decimal.real? trimmed with
      | some x => some (.number x)
      | none => some (.text raw)
  else some (.text raw)

/-! ## Members and axes -/

/-- The last child element with a local name that has a text, and its text. -/
def lastProperty? (node : Node) (localName : String) : Option (Node × String) :=
  ((node.childrenCalled localName).filterMap fun property =>
    match property.text? with
    | some raw => if raw.isEmpty then none else some (property, raw)
    | none => none).getLast?

/-- The text of the last child element with a local name that has a text. -/
def lastText? (node : Node) (localName : String) : Option String :=
  (lastProperty? node localName).map Prod.snd

/--
The level of a member. A measure is its own level. Another member has the named level if its unique
name begins with it, and otherwise its hierarchy.
-/
def levelOf (isMeasure : Bool) (uniqueName hierarchy : String) (levelName : Option String) :
    String :=
  if isMeasure then uniqueName
  else
    match levelName with
    | some levelName =>
      if Text.beginsWith uniqueName levelName then levelName else hierarchy
    | none => hierarchy

/-- The member that an element stands for. -/
def memberOf? (node : Node) : Except Error Member := do
  let (uniqueName, hierarchy) ←
    match lastText? node "UName", node.attribute? "Hierarchy" with
    | some uniqueName, some hierarchy => .ok (uniqueName, hierarchy)
    | _, _ => .error (.invalidResponse .unnamedMember)
  let levelNumber ←
    match (lastText? node "LNum").bind fun raw =>
      Decimal.count32? (Text.trimChars raw.toList) with
    | some levelNumber => .ok levelNumber
    | none => .error (.invalidResponse (.unnumberedMember uniqueName))
  let isMeasure := hierarchy == "[Measures]"
  .ok {
    isMeasure := isMeasure
    level := ⟨levelOf isMeasure uniqueName hierarchy (lastText? node "LName")⟩
    levelNumber := levelNumber
    caption := lastText? node "Caption"
    value := (lastProperty? node "MEMBER_VALUE").bind fun (property, raw) => valueOf property raw
  }

/-- The axis that an element stands for. -/
def axisOf? (node : Node) : Except Error Axis := do
  let tuples := (node.childrenCalled "Tuples").flatMap (·.childrenCalled "Tuple")
  .ok ⟨← tuples.mapM fun tuple =>
    return ⟨← (tuple.childrenCalled "Member").mapM memberOf?⟩⟩

/-- The elements of the axes of an element: those with a name, without the axis of the slicer. -/
def axisNodes (node : Node) : List Node :=
  (node.childrenCalled "Axis").filter fun axis =>
    match axis.attribute? "name" with
    | some name => name != "SlicerAxis"
    | none => false

/-- The axes that an element holds, at most two. -/
def axesOf? (node : Node) : Except Error (List Axis) := do
  let axes ← (axisNodes node).mapM axisOf?
  if axes.length > 2 then .error (.invalidResponse (.tooManyAxes axes.length))
  .ok axes

/-! ## Cells -/

/-- The cell that an element stands for. -/
def cellOf (node : Node) : Cell where
  value := (node.childrenCalled "Value").getLast?.bind fun property =>
    valueOf property (property.text?.getD "")
  formattedValue := (node.childrenCalled "FmtValue").getLast?.map fun property =>
    property.text?.getD ""

/-- The ordinal of a cell's element, if it has one that is a number. -/
def ordinalOf? (node : Node) : Option Nat :=
  (node.attribute? "CellOrdinal").bind fun raw =>
    (Decimal.count64? (Text.trimChars raw.toList)).map UInt64.toNat

/-- Cells followed by empty ones up to a size. -/
def padCells (cells : Array Cell) (size : Nat) : Array Cell :=
  cells ++ Array.replicate (size - cells.size) Cell.empty

/-- Cells padded up to an ordinal, of which `size` are expected; without an ordinal as they are. -/
def padToOrdinal? (size : Nat) (cells : Array Cell) : Option Nat → Except Error (Array Cell)
  | none => .ok cells
  | some ordinal =>
    if size ≤ ordinal then .error (.invalidResponse (.ordinalOutOfRange ordinal size))
    else .ok (padCells cells ordinal)

/-- Adds a cell that may have an ordinal to the cells before it, of which `size` are expected. -/
def placeCell (size : Nat) (cells : Array Cell) (entry : Option Nat × Cell) :
    Except Error (Array Cell) :=
  match padToOrdinal? size cells entry.1 with
  | .error e => .error e
  | .ok cells =>
    if size ≤ cells.size then .error (.invalidResponse (.tooManyCells size))
    else .ok (cells.push entry.2)

/-- The dense array of `size` cells that cells with optional ordinals stand for. -/
def fillCells (size : Nat) (entries : List (Option Nat × Cell)) : Except Error (Array Cell) := do
  let cells ← entries.foldlM (placeCell size) #[]
  .ok (padCells cells size)

/-- The cells that an element with cell data holds, `size` of them. -/
def cellsOf? (node : Node) (size : Nat) : Except Error (Array Cell) :=
  fillCells size ((node.childrenCalled "Cell").map fun cell => (ordinalOf? cell, cellOf cell))

/-- The number of cells that axes span; without axes there is a single cell. -/
def cellCount (axes : List Axis) : Nat :=
  match axes with
  | [] => 1
  | [columns] => columns.tuples.length
  | columns :: rows :: _ => columns.tuples.length * rows.tuples.length

/-! ## Cellsets -/

/-- The cellset that an element stands for. -/
def ofElement? (root : Node) : Except Error Cellset := do
  match root.childCalled? "Axes", root.childCalled? "CellData" with
  | some axesNode, some cellsNode =>
    let axes ← axesOf? axesNode
    let cells ← cellsOf? cellsNode (cellCount axes)
    .ok ⟨axes, cells⟩
  | _, _ => .error (.invalidResponse .noContainers)

/-- The cellset that the root element of an XML text stands for. -/
def ofXml? (s : String) : Except Error Cellset :=
  match Xml.document? s with
  | some root => ofElement? root
  | none => .error .malformedXml

/-- Placing a cell keeps within the expected size. -/
theorem size_placeCell {size : Nat} {cells result : Array Cell} {entry : Option Nat × Cell}
    (h : placeCell size cells entry = .ok result) : result.size ≤ size := by
  unfold placeCell at h
  split at h
  · cases h
  · split at h
    · cases h
    · cases h
      simp only [Array.size_push]
      omega

/-- A filled list of cells has the expected length. -/
theorem size_fillCells {size : Nat} {entries : List (Option Nat × Cell)} {result : Array Cell}
    (h : fillCells size entries = .ok result) : result.size = size := by
  have hbound : ∀ (entries : List (Option Nat × Cell)) (start cells : Array Cell),
      start.size ≤ size → entries.foldlM (placeCell size) start = .ok cells →
        cells.size ≤ size := by
    intro entries
    induction entries with
    | nil =>
      intro start cells hstart hfold
      cases hfold
      exact hstart
    | cons entry rest ih =>
      intro start cells _ hfold
      rw [List.foldlM_cons] at hfold
      cases hplace : placeCell size start entry with
      | error e => rw [hplace] at hfold; cases hfold
      | ok next =>
        rw [hplace] at hfold
        exact ih next cells (size_placeCell hplace) hfold
  unfold fillCells at h
  cases hfold : entries.foldlM (placeCell size) #[] with
  | error e => rw [hfold] at h; cases h
  | ok cells =>
    rw [hfold] at h
    cases h
    have := hbound entries #[] cells (by simp) hfold
    simp only [padCells, Array.size_append, Array.size_replicate]
    omega

end CubeQuery.Cellset
