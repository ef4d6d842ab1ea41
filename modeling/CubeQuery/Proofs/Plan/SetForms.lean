import CubeQuery.Request.Options

set_option autoImplicit false

/-!
# The forms of joined, sorted and paged sets

What the cross join of some sets, a set in the order of sort keys and a page of it are made of, said
by the forms of sets and not by the functions that make them.

Main statements: sets are joined, sorted and paged in these forms (`product?_eq_ok_iff`,
`isSorted_iff`, `isPage_iff`).
-/

namespace CubeQuery.Plan

open Mdx (Level SetExpr)
open Request (Options SortKey)

/-- The cross join of sets, if there are any; a single set stands by itself. -/
def joined : List SetExpr → Option SetExpr
  | [] => none
  | [set] => some set
  | first :: second :: rest => some (.crossJoin first (second :: rest))

/-- A set in the order of sort keys: the first key is the outermost order, and a key without a level
is passed over. -/
inductive IsSorted (base : SetExpr) : List SortKey → SetExpr → Prop where
  | unsorted : IsSorted base [] base
  | byLevel {key : SortKey} {level : Level} {keys : List SortKey} {sorted : SetExpr} :
      key.level = some level → IsSorted base keys sorted →
      IsSorted base (key :: keys) (.order sorted (.levelValue level) key.direction)
  | passed {key : SortKey} {keys : List SortKey} {sorted : SetExpr} :
      key.level = none → IsSorted base keys sorted → IsSorted base (key :: keys) sorted

/-- A page of a sorted set. Behind skipped tuples without a number of those to keep, there are as
many as the unsorted set has. -/
inductive IsPage (unsorted sorted : SetExpr) : Option UInt64 → Option UInt64 → SetExpr → Prop where
  | whole : IsPage unsorted sorted none none sorted
  | top (top : UInt64) : IsPage unsorted sorted none (some top)
      (.head sorted (some (.whole top.toNat)))
  | between (skip top : UInt64) : IsPage unsorted sorted (some skip) (some top)
      (.subset sorted (.whole skip.toNat) (some (.whole top.toNat)))
  | behind (skip : UInt64) : IsPage unsorted sorted (some skip) none
      (.subset sorted (.whole skip.toNat) (some (.count unsorted false)))

theorem joined_cons (first : SetExpr) (rest : List SetExpr) :
    joined (first :: rest) = some (first.product rest) := by
  cases rest with
  | nil => rfl
  | cons second others => rfl

/-- Sets are joined by a cross join. -/
theorem product?_eq_ok_iff {sets : List SetExpr} {set : SetExpr} :
    SetExpr.product? sets = .ok set ↔ joined sets = some set := by
  cases sets with
  | nil => exact ⟨nofun, nofun⟩
  | cons first rest => rw [joined_cons, SetExpr.product?, Except.ok.injEq, Option.some.injEq]

theorem isSorted_sort (options : Options) (base : SetExpr) :
    IsSorted base options.orderBy (options.sort base) := by
  rw [Options.sort]
  induction options.orderBy with
  | nil => exact .unsorted
  | cons key keys ih =>
    rw [List.foldr_cons]
    cases hlevel : key.level with
    | none => exact .passed hlevel ih
    | some level => exact .byLevel hlevel ih

/-- A set is sorted as the keys say. -/
theorem isSorted_iff (options : Options) {base sorted : SetExpr} :
    IsSorted base options.orderBy sorted ↔ options.sort base = sorted := by
  constructor
  · rw [Options.sort]
    generalize options.orderBy = keys
    intro h
    -- How keys sort follows the fold over them, one key after another from the outside.
    induction h with
    | unsorted => rfl
    | byLevel hlevel _ ih =>
      rw [List.foldr_cons, ih, hlevel]
      rfl
    | passed hlevel _ ih => rw [List.foldr_cons, ih, hlevel]
  · rintro rfl
    exact isSorted_sort options base

/-- A sorted set is paged as the options say. -/
theorem isPage_iff (options : Options) {unsorted sorted page : SetExpr} :
    IsPage unsorted sorted options.skip options.top page ↔
      options.page unsorted sorted = page := by
  rw [Options.page]
  generalize options.skip = skip, options.top = top
  constructor
  · intro h
    cases h with
    | whole => rfl
    | top top => rfl
    | between skip top => rfl
    | behind skip => rfl
  · rintro rfl
    cases skip with
    | none =>
      cases top with
      | none => exact .whole
      | some top => exact .top top
    | some skip =>
      cases top with
      | none => exact .behind skip
      | some top => exact .between skip top

end CubeQuery.Plan
