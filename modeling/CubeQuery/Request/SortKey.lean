import CubeQuery.Mdx.Level

set_option autoImplicit false

/-!
# Sort keys

A sort key names the level or measure to sort by and the direction. A key without a level sorts
nothing.
-/

namespace CubeQuery.Request

open Mdx (Level Direction)

/-- One key of a sort order. -/
structure SortKey where
  level : Option Level
  direction : Option Direction
deriving DecidableEq, Repr, Inhabited

namespace SortKey

/-- The key that sorts by a level in the direction that the server chooses. -/
def ofLevel (level : Level) : SortKey :=
  ⟨some level, none⟩

/-- The key that sorts by a level upwards. -/
def ascending (level : Level) : SortKey :=
  ⟨some level, some .ascending⟩

/-- The key that sorts by a level downwards. -/
def descending (level : Level) : SortKey :=
  ⟨some level, some .descending⟩

/-- The key with another direction. -/
def directed (key : SortKey) (direction : Direction) : SortKey :=
  { key with direction := some direction }

end SortKey

end CubeQuery.Request
