import CubeQuery.Request.Filter
import CubeQuery.Request.SortKey

set_option autoImplicit false

/-!
# Options

What every shape of query has in common: filters, a sort order, a page, and the wish for a count of
all rows. A page drops the first `skip` rows and keeps at most `top` of the others.
-/

namespace CubeQuery.Request

open Mdx (Level SetExpr Expr)

/-- Filtering, sorting and paging. -/
structure Options where
  filters : List Filter
  orderBy : List SortKey
  skip : Option UInt64
  top : Option UInt64
  includeTotalCount : Bool
deriving Inhabited

namespace Options

/-- No filter, no order, all rows, no count. -/
def none : Options :=
  ⟨[], [], .none, .none, false⟩

/-- The options with one more filter. -/
def filtering (o : Options) (filter : Filter) : Options :=
  { o with filters := o.filters ++ [filter] }

/-- The options with one more sort key, of less weight than those before it. -/
def orderedBy (o : Options) (key : SortKey) : Options :=
  { o with orderBy := o.orderBy ++ [key] }

/-- The options with the number of rows to drop. -/
def skipping (o : Options) (n : UInt64) : Options :=
  { o with skip := some n }

/-- The options with the number of rows to keep. -/
def keeping (o : Options) (n : UInt64) : Options :=
  { o with top := some n }

/-- The options with a count of all rows. -/
def counting (o : Options) : Options :=
  { o with includeTotalCount := true }

/-- Whether the options or one of their filters ask for a count. -/
def requestsTotalCount (o : Options) : Bool :=
  o.includeTotalCount || o.filters.any (·.includeTotalCount)

/-- Whether a filter asks for the aggregate member, that is for a row of totals. -/
def requestsTotals (o : Options) : Bool :=
  o.filters.any (·.includeAll)

/-- The levels sorted by, in order of weight. -/
def sortLevels (o : Options) : List Level :=
  o.orderBy.filterMap (·.level)

/-! ## Applied to sets -/

/-- The set in the order of the sort keys: the last key is applied first. -/
def sort (o : Options) (set : SetExpr) : SetExpr :=
  o.orderBy.foldr
    (fun key sorted =>
      match key.level with
      | some level => .order sorted level.value.expr key.direction
      | .none => sorted)
    set

/--
The page of a sorted set. Without a number of rows to keep, as many are kept as the unsorted set
has, which is all of them.
-/
def page (o : Options) (unsorted sorted : SetExpr) : SetExpr :=
  match o.skip, o.top with
  | some skip, some top => .subset sorted (.ofCount skip) (some (.ofCount top))
  | some skip, .none => .subset sorted (.ofCount skip) (some (unsorted.count false).expr)
  | .none, some top => .head sorted (some (.ofCount top))
  | .none, .none => sorted

/-- The set sorted and then paged. -/
def arrange (o : Options) (set : SetExpr) : SetExpr :=
  o.page set (o.sort set)

end Options

end CubeQuery.Request
