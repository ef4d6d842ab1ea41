import CubeQuery.Cellset.Counts
import CubeQuery.Mdx.Kind

set_option autoImplicit false

/-!
# Errors

What can go wrong between a query and its result, by cause. Each kind of error has a type of causes
and one function that puts a cause into words; a cause that comes from outside the library, such as
a hook of a transport, is `described` in its own words.

Construction errors are raised while a statement is compiled, that is before anything is sent; all
others concern a reply, its XML or the way to it.
-/

namespace CubeQuery

/-- Why an attribute or a measure is refused. -/
inductive LevelFault where
  | notLevel (name : String)
  | isMeasure (name : String)
  | isAttribute (name : String)
  | repeated (name : String)
  | reserved (name : String)
  | described (text : String)
deriving DecidableEq, Repr

/-- Why a filter is refused. -/
inductive FilterFault where
  | notLevel (text : String)
  | repeated (name : String)
  | unknownOperator (text : String)
  | described (text : String)
deriving DecidableEq, Repr

/-- Why a query or a statement is refused. -/
inductive QueryFault where
  | unknownDirection (text : String)
  | unknownType (text : String)
  | noAttribute
  | noColumn
  | nothingToCount
  | noColumnAxis
  | described (text : String)
deriving DecidableEq, Repr

/-- A set function that needs at least one further argument. -/
inductive Joining where
  | crossJoin
  | union
  | extract
deriving DecidableEq, Repr

/-- Why an expression is refused. -/
inductive ExpressionFault where
  | alone (joining : Joining) (set : String)
  | notValue (kind : Mdx.Kind)
  | repeated (name : String)
  | described (text : String)
deriving DecidableEq, Repr

/-- Why an axis is refused. -/
inductive AxisFault where
  | pages
  | described (text : String)
deriving DecidableEq, Repr

/-- Why a reply or a result read from it is refused. -/
inductive ResponseFault where
  | noContainers
  | tooManyAxes (count : Nat)
  | unnamedMember
  | unnumberedMember (name : String)
  | ordinalOutOfRange (ordinal cellCount : Nat)
  | tooManyCells (cellCount : Nat)
  | noMembers
  | noTuples
  | noColumnAxis (counts : Cellset.Counts)
  | noRowAxis (counts : Cellset.Counts)
  | noCell (index : Nat) (counts : Cellset.Counts)
  | rowCellMismatch (expected actual : Nat)
  | multipleTotals
  | missingTotals
  | unexpectedTotals
  | unknownMeasure (name : String)
  | noDefaultSeries
  | noSeries (name : String)
  | unpreparedMeasure (name : String)
  | unpreparedSeries (name : String)
  | columnCellMismatch (columns cells : Nat)
  | columnMeasureMismatch (columns measures : Nat)
  | unexpectedLevel (name : String)
  | misfit
  | described (text : String)
deriving DecidableEq, Repr

/-- An error of the library, by kind and cause. -/
inductive Error where
  | invalidExpression (fault : ExpressionFault)
  | invalidAttribute (fault : LevelFault)
  | invalidMeasure (fault : LevelFault)
  | invalidFilter (fault : FilterFault)
  | invalidQuery (fault : QueryFault)
  | emptyOperands (operation operand : String)
  | unsupportedAxis (fault : AxisFault)
  | invalidResponse (fault : ResponseFault)
  | malformedXml
  | transport (text : String)
deriving DecidableEq, Repr

/-! ## Wording -/

/-- A refused level in words. -/
def LevelFault.message : LevelFault → String
  | notLevel name => name ++ " detected. It must be a level expression."
  | isMeasure name => name ++ " detected. It must not be a measure."
  | isAttribute name => name ++ " detected. It must not be an attribute."
  | repeated name => name ++ " detected. It may not be defined more than once."
  | reserved name => name ++ " detected. The name is reserved."
  | described text => text

/-- A refused filter in words. -/
def FilterFault.message : FilterFault → String
  | notLevel text => text ++ " detected. It must be a level expression."
  | repeated name => name ++ " detected. It may not be filtered more than once."
  | unknownOperator text =>
    "operator " ++ text ++ " detected. It must be one of <, <=, <>, =, >, >=."
  | described text => text

/-- A refused query in words. -/
def QueryFault.message : QueryFault → String
  | unknownDirection text => "sort direction " ++ text ++ " is not supported"
  | unknownType text => "Invalid dimension query type " ++ text ++ "."
  | noAttribute => "Invalid dimension query. At least one attribute must be specified."
  | noColumn => "Invalid table query. At least one column or measure must be specified."
  | nothingToCount =>
    "Invalid table query. A total count needs at least one row or column attribute."
  | noColumnAxis => "Invalid select statement. Column axis must be specified."
  | described text => text

/-- A refused expression in words. -/
def ExpressionFault.message : ExpressionFault → String
  | alone .crossJoin set =>
    "Invalid cross join on '" ++ set ++ "'. At least one other set expression must be defined."
  | alone .union set =>
    "Invalid union on '" ++ set ++ "'. At least one other set expression must be defined."
  | alone .extract set =>
    "Invalid extract on '" ++ set ++ "'. At least one hierarchy expression must be defined."
  | notValue kind => "Invalid value expression. Type " ++ kind.name ++ " is not supported."
  | repeated name => name ++ " detected. It may not be defined more than once."
  | described text => text

/-- A refused axis in words. -/
def AxisFault.message : AxisFault → String
  | pages => "The page axis is not yet supported."
  | described text => text

/-- A refused reply in words. -/
def ResponseFault.message : ResponseFault → String
  | noContainers => "Invalid table response. The axes and cell data nodes must be specified."
  | tooManyAxes count =>
    toString count ++ " axes were returned, but only columns and rows are supported."
  | unnamedMember => "Invalid member. The unique name and hierarchy must be specified."
  | unnumberedMember name =>
    "Invalid member " ++ name ++ ". The level number must be specified."
  | ordinalOutOfRange ordinal cellCount =>
    "Cell ordinal " ++ toString ordinal ++ " is out of range. Expected fewer than "
      ++ toString cellCount ++ " cells."
  | tooManyCells cellCount =>
    "More cells were returned than the " ++ toString cellCount ++ " expected."
  | noMembers => "Invalid tuple. No members were defined."
  | noTuples => "Invalid axis. No tuples were defined."
  | noColumnAxis counts => "Column axis is undefined (" ++ counts.text ++ ")."
  | noRowAxis counts => "Row axis is undefined (" ++ counts.text ++ ")."
  | noCell index counts =>
    "Cell at index " ++ toString index ++ " is undefined (" ++ counts.text ++ ")."
  | rowCellMismatch expected actual =>
    "The number of rows (" ++ toString expected
      ++ ") must match the number of returned cells (" ++ toString actual ++ ")."
  | multipleTotals => "Multiple totals were provided."
  | missingTotals => "Totals were not provided, but expected."
  | unexpectedTotals => "Totals were provided, but unexpected."
  | unknownMeasure name => "Invalid measure " ++ name ++ ". It does not belong to the chart."
  | noDefaultSeries => "Invalid series group. It does not contain the default series."
  | noSeries name => "Invalid series group. It does not contain the series " ++ name ++ "."
  | unpreparedMeasure name =>
    "Invalid chart data. Measure " ++ name ++ " was defined but not initialized."
  | unpreparedSeries name =>
    "Invalid chart series group. Series " ++ name ++ " was defined but not initialized."
  | columnCellMismatch columns cells =>
    "The number of columns (" ++ toString columns
      ++ ") must match the number of returned cells (" ++ toString cells ++ ")."
  | columnMeasureMismatch columns measures =>
    "The number of columns (" ++ toString columns
      ++ ") must match the number of requested measures (" ++ toString measures ++ ")."
  | unexpectedLevel name => "Level expression " ++ name ++ " was provided but unexpected."
  | misfit => "The data does not have the expected form."
  | described text => text

namespace Error

/-- An error in words. -/
def message : Error → String
  | invalidExpression fault => "Invalid expression: " ++ fault.message
  | invalidAttribute fault => "Invalid attribute " ++ fault.message
  | invalidMeasure fault => "Invalid measure " ++ fault.message
  | invalidFilter fault => "Invalid filter " ++ fault.message
  | invalidQuery fault => "Invalid query: " ++ fault.message
  | emptyOperands operation operand =>
    "Invalid " ++ operation ++ ": at least one " ++ operand ++ " must be specified"
  | unsupportedAxis fault => "Axis not supported: " ++ fault.message
  | invalidResponse fault => "Invalid response: " ++ fault.message
  | malformedXml => "XML error: the document is not well-formed"
  | transport text => "Transport error: " ++ text

/-- Whether an error is raised before anything is sent to a server. -/
def isConstruction : Error → Bool
  | invalidExpression _ | invalidAttribute _ | invalidMeasure _ | invalidFilter _
  | invalidQuery _ | emptyOperands _ _ | unsupportedAxis _ => true
  | invalidResponse _ | malformedXml | transport _ => false

end Error

end CubeQuery
