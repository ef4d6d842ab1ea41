import CubeQuery.Mdx.Set

set_option autoImplicit false

/-!
# Statements

An MDX statement in its clauses: definitions in the order they were made, the sets on the columns
and rows axes, and the two restrictions of the cube, a sub-select and a slicer. A later call for an
axis or a restriction replaces the earlier one. The text of a statement needs a set on columns.
-/

namespace CubeQuery.Mdx

/-- An entry of the WITH clause. -/
inductive Definition where
  | set (name : String) (value : SetExpr)
  | member (name : String) (value : Expr) (caption : Option String)

/-- A statement in its clauses. -/
structure Statement where
  cube : String
  definitions : List Definition
  columns : Option SetExpr
  rows : Option SetExpr
  subSelect : Option SetExpr
  slicer : Option SetExpr

/-- Characters with every single quote written twice. -/
def doubleQuotes : List Char → List Char
  | [] => []
  | c :: rest => if c = '\'' then '\'' :: '\'' :: doubleQuotes rest else c :: doubleQuotes rest

/-- A definition as one line. -/
def Definition.text : Definition → String
  | set name value => "SET " ++ name ++ " AS " ++ value.text
  | member name value none => "MEMBER " ++ name ++ " AS " ++ value.text
  | member name value (some caption) =>
    "MEMBER " ++ name ++ " AS " ++ value.text ++ ", CAPTION = '"
      ++ String.ofList (doubleQuotes caption.toList) ++ "'"

namespace Statement

/-- The statement on a cube that has no clauses yet. -/
def ofCube (cube : String) : Statement :=
  ⟨cube, [], none, none, none, none⟩

/-- Adds the definition of a member. -/
def defineMember (s : Statement) (name : String) (value : Expr) (caption : Option String) :
    Statement :=
  { s with definitions := s.definitions ++ [.member name value caption] }

/-- Adds the definition of a set. -/
def defineSet (s : Statement) (name : String) (value : SetExpr) : Statement :=
  { s with definitions := s.definitions ++ [.set name value] }

/-- Puts a set on columns. -/
def onColumns (s : Statement) (set : SetExpr) : Statement :=
  { s with columns := some set }

/-- Puts a set on rows. -/
def onRows (s : Statement) (set : SetExpr) : Statement :=
  { s with rows := some set }

/-- Refuses a set on pages. -/
def onPages? (_ : Statement) (_ : SetExpr) : Except Error Statement :=
  .error (.unsupportedAxis .pages)

/-- Restricts the cube by a sub-select, or takes that restriction back. -/
def selectingFrom (s : Statement) (set : Option SetExpr) : Statement :=
  { s with subSelect := set }

/-- Restricts the cube by a slicer, or takes that restriction back. -/
def slicedBy (s : Statement) (set : Option SetExpr) : Statement :=
  { s with slicer := set }

/-- The properties asked for with every member. -/
def memberProperties : String := "DIMENSION PROPERTIES MEMBER_VALUE"

/-- The properties asked for with every cell. -/
def cellProperties : String := "CELL PROPERTIES VALUE, FORMATTED_VALUE"

/-- The SELECT line for a set on columns. -/
def selectLine (s : Statement) (columns : SetExpr) : String :=
  let columnsPart := "SELECT " ++ columns.text ++ " " ++ memberProperties ++ " ON COLUMNS"
  match s.rows with
  | none => columnsPart
  | some rows => columnsPart ++ ", " ++ rows.text ++ " " ++ memberProperties ++ " ON ROWS"

/-- The FROM line. -/
def fromLine (s : Statement) : String :=
  match s.subSelect with
  | none => "FROM [" ++ s.cube ++ "]"
  | some set => "FROM (SELECT " ++ set.text ++ " ON COLUMNS FROM [" ++ s.cube ++ "])"

/-- The WITH clause, empty without definitions. -/
def withLines (s : Statement) : List String :=
  match s.definitions with
  | [] => []
  | definitions => "WITH" :: definitions.map Definition.text

/-- The WHERE clause, empty without a slicer. -/
def whereLines (s : Statement) : List String :=
  match s.slicer with
  | none => []
  | some set => ["WHERE (" ++ set.text ++ ")"]

/-- The lines of a statement. -/
def lines? (s : Statement) : Except Error (List String) :=
  match s.columns with
  | none => .error (.invalidQuery .noColumnAxis)
  | some columns =>
    .ok (s.withLines ++ [s.selectLine columns, s.fromLine] ++ s.whereLines ++ [cellProperties])

/-- The text of a statement. -/
def text? (s : Statement) : Except Error String :=
  s.lines?.map "\r\n".intercalate

end Statement

end CubeQuery.Mdx
