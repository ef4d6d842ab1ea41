import CubeQuery.Mdx.Kind
import CubeQuery.Mdx.Operator
import CubeQuery.Text.Word
import CubeQuery.Value

set_option autoImplicit false

/-!
# MDX expressions

Sets and all other expressions as syntax trees, and the text of each. A tree keeps what an
expression is made of, so that a reading of the MDX functions can be given by recursion over it;
the text is only its printed form. Words that a caller supplies stand in a tree as they are.

Sets named by a statement and the members that a statement calculates have reserved names.
-/

namespace CubeQuery.Mdx

/-! ## Names -/

/-- A level of a hierarchy, or a measure, by its bracketed name. -/
structure Level where
  name : String
deriving DecidableEq, Repr, Inhabited

/-- A set that a statement defines and then uses by name. -/
inductive NamedSet where
  | attributes
  | measures
  | columns
  | rows
deriving DecidableEq, Repr, Inhabited

/-- The reserved name of a defined set. -/
def NamedSet.text : NamedSet → String
  | attributes => "[queryAttributes]"
  | measures => "[queryMeasures]"
  | columns => "[queryColumns]"
  | rows => "[queryRows]"

/-- Defined sets have different names. -/
theorem NamedSet.text_injective {first second : NamedSet} (h : first.text = second.text) :
    first = second := by
  cases first <;> cases second <;> simp [text] at h ⊢

/-- A measure that a statement calculates: the flag for rows with data, and the row count. -/
inductive CalculatedMember where
  | isNonEmpty
  | totalCount
deriving DecidableEq, Repr, Inhabited

/-- The reserved name of a calculated measure. -/
def CalculatedMember.text : CalculatedMember → String
  | isNonEmpty => "[Measures].[_isNonEmpty]"
  | totalCount => "[Measures].[_totalCount]"

/-- The names that a query may not use for its own levels. -/
def reservedNames : List String :=
  [NamedSet.attributes.text, NamedSet.measures.text, NamedSet.columns.text, NamedSet.rows.text,
    CalculatedMember.isNonEmpty.text, CalculatedMember.totalCount.text]

/-- One member: in a caller's words, calculated, or a level's member with a key. -/
inductive Member where
  | named (words : String)
  | calculated (member : CalculatedMember)
  | keyed (level : Level) (key : Option Value)
deriving Inhabited

/-- The text of a member; an absent key and an empty one are both left out. -/
def Member.text : Member → String
  | named words => words
  | calculated member => member.text
  | keyed level none => level.name ++ ".&"
  | keyed level (some (.text "")) => level.name ++ ".&"
  | keyed level (some key) => level.name ++ ".&[" ++ key.words ++ "]"

/-! ## Trees -/

mutual

/-- An ordered set of members or tuples. -/
inductive SetExpr where
  | words (text : String)
  | named (name : NamedSet)
  | children (level : Level)
  | members (level : Level)
  | childrenOf (member : Member)
  | measures (first : Level) (rest : List Level)
  | listed (first : Member) (rest : List Member)
  | crossJoin (first : SetExpr) (rest : List SetExpr)
  | union (first : SetExpr) (rest : List SetExpr)
  | extract (set : SetExpr) (levels : List Level)
  | filter (set : SetExpr) (condition : Expr)
  | nonEmpty (set : SetExpr) (basis : Option SetExpr)
  | order (set : SetExpr) (key : Expr) (direction : Option Direction)
  | subset (set : SetExpr) (start : Expr) (count : Option Expr)
  | head (set : SetExpr) (count : Option Expr)
  | tail (set : SetExpr) (count : Option Expr)
  | topCount (set : SetExpr) (count : Expr) (sortBy : Option Expr)
  | bottomCount (set : SetExpr) (count : Expr) (sortBy : Option Expr)

/-- An expression of any kind. -/
inductive Expr where
  | string (text : String)
  | numeric (text : String)
  | mixed (text : String)
  | logical (text : String)
  | whole (n : Int)
  | null
  | level (level : Level)
  | levelValue (level : Level)
  | member (member : Member)
  | set (set : SetExpr)
  | count (set : SetExpr) (excludeEmpty : Bool)
  | compare (left : Expr) (operator : Comparison) (right : Expr)
  | iif (condition thenValue elseValue : Expr)

end

instance : Inhabited SetExpr := ⟨.words ""⟩

instance : Inhabited Expr := ⟨.null⟩

/-- Whether a level is a measure. -/
def Level.isMeasure (level : Level) : Bool :=
  Text.beginsWith level.name "[Measures]"

/-- Whether a name has the shape of a level: brackets at both ends. -/
def isBracketed (name : String) : Bool :=
  name.toList.head? == some '[' && name.toList.getLast? == some ']'

/-- Whether a level's name has the shape of a level. -/
def Level.isValid (level : Level) : Bool :=
  isBracketed level.name

/-- The kind of an expression, which its text does not show. -/
def Expr.kind : Expr → Kind
  | string _ => .string
  | numeric _ => .numeric
  | mixed _ => .mixed
  | logical _ => .logical
  | whole _ => .numeric
  | null => .mixed
  | level _ => .level
  | levelValue l => if l.isMeasure then .numeric else .mixed
  | member _ => .member
  | set _ => .set
  | count _ _ => .numeric
  | compare _ _ _ => .logical
  | iif _ thenValue elseValue => (Kind.common thenValue.kind [elseValue.kind]).demoted

/-! ## Texts -/

/-- A function call. -/
def call (function : String) (arguments : List String) : String :=
  function ++ "(" ++ ",".intercalate arguments ++ ")"

/-- A set of items by enumeration; one item stands by itself. -/
def enumerated (first : String) : List String → String
  | [] => first
  | rest => "\x7b" ++ ",".intercalate (first :: rest) ++ "\x7d"

mutual

/-- The text of a set. -/
def SetExpr.text : SetExpr → String
  | .words text => text
  | .named name => name.text
  | .children level => level.name ++ ".children"
  | .members level => level.name ++ ".members"
  | .childrenOf member => member.text ++ ".children"
  | .measures first rest => enumerated first.name (rest.map Level.name)
  | .listed first rest => enumerated first.text (rest.map Member.text)
  | .crossJoin first rest => call "CROSSJOIN" (first.text :: setTexts rest)
  | .union first rest => call "UNION" (first.text :: setTexts rest)
  | .extract set levels => call "EXTRACT" (set.text :: levels.map Level.name)
  | .filter set condition => call "FILTER" [set.text, condition.text]
  | .nonEmpty set basis => call "NONEMPTY" (set.text :: optionalSetText basis)
  | .order set key direction =>
    call "ORDER" (set.text :: key.text :: (direction.map Direction.text).toList)
  | .subset set start count => call "SUBSET" (set.text :: start.text :: optionalText count)
  | .head set count => call "HEAD" (set.text :: optionalText count)
  | .tail set count => call "TAIL" (set.text :: optionalText count)
  | .topCount set count sortBy =>
    call "TOPCOUNT" (set.text :: count.text :: optionalText sortBy)
  | .bottomCount set count sortBy =>
    call "BOTTOMCOUNT" (set.text :: count.text :: optionalText sortBy)

/-- The texts of several sets. -/
def setTexts : List SetExpr → List String
  | [] => []
  | set :: rest => set.text :: setTexts rest

/-- The text of a set that may be left out, as arguments. -/
def optionalSetText : Option SetExpr → List String
  | none => []
  | some set => [set.text]

/-- The text of an expression. -/
def Expr.text : Expr → String
  | .string text => text
  | .numeric text => text
  | .mixed text => text
  | .logical text => text
  | .whole n => toString n
  | .null => "NULL"
  | .level level => level.name
  | .levelValue level => if level.isMeasure then level.name else level.name ++ ".MEMBER_VALUE"
  | .member member => member.text
  | .set set => set.text
  | .count set excludeEmpty =>
    call "COUNT" (set.text :: if excludeEmpty then ["EXCLUDEEMPTY"] else [])
  | .compare left operator right => left.text ++ " " ++ operator.text ++ " " ++ right.text
  | .iif condition thenValue elseValue =>
    call "IIF" [condition.text, thenValue.text, elseValue.text]

/-- The text of an expression that may be left out, as arguments. -/
def optionalText : Option Expr → List String
  | none => []
  | some e => [e.text]

end

end CubeQuery.Mdx
