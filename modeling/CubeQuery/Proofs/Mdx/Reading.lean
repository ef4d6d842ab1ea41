import CubeQuery.Mdx.Set
import CubeQuery.Request.Options
import Mathlib.Data.List.Dedup
import Mathlib.Data.List.Nodup
import Mathlib.Data.List.Perm.Basic
import Mathlib.Data.List.ProdSigma

set_option autoImplicit false

/-!
# What a server reads sets as

A server reads a set as a list of tuples, each a member for every level that the set ranges over. A
`Reading` is such an interpretation with the laws of the functions that sorting is made of: a cross
join is the product of the lists of its operands, ordering rearranges a set, and extraction projects
it to levels and drops repeats. All other functions may be read in any way.

Main statements: the product of several lists is that of its parts (`products_append`), it repeats
no tuple if none of its factors does (`nodup_crossed`), and projecting a product to the levels of
its first factor gives that factor back (`at_append`).
-/

namespace CubeQuery.Mdx

open Request (Options)

/-! ## Tuples -/

variable {α : Type}

/-- Members by the level they stand for. -/
abbrev Tuple (α : Type) := List (Level × α)

/-- Every tuple of a first list followed by every tuple of a second one. -/
def crossed (first second : List (Tuple α)) : List (Tuple α) :=
  (first ×ˢ second).map fun pair => pair.1 ++ pair.2

/-- The product of lists of tuples, the last list varying fastest. -/
def products : List (List (Tuple α)) → List (Tuple α)
  | [] => [[]]
  | first :: rest => crossed first (products rest)

/-- A tuple projected to levels, in the order of the levels. -/
def Tuple.at (tuple : Tuple α) (levels : List Level) : Tuple α :=
  levels.filterMap fun level => tuple.find? fun coordinate => coordinate.1 == level

/-- All tuples have their members for the given levels, in this order. -/
def RangeOver (levels : List Level) (tuples : List (Tuple α)) : Prop :=
  ∀ tuple ∈ tuples, tuple.map Prod.fst = levels

theorem mem_crossed_iff {first second : List (Tuple α)} {tuple : Tuple α} :
    tuple ∈ crossed first second ↔ ∃ a ∈ first, ∃ b ∈ second, a ++ b = tuple := by
  rw [crossed, List.mem_map]
  constructor
  · rintro ⟨⟨a, b⟩, hmem, rfl⟩
    obtain ⟨ha, hb⟩ := List.mem_product.1 hmem
    exact ⟨a, ha, b, hb, rfl⟩
  · rintro ⟨a, ha, b, hb, rfl⟩
    exact ⟨(a, b), List.mem_product.2 ⟨ha, hb⟩, rfl⟩

theorem crossed_eq_flatMap (first second : List (Tuple α)) :
    crossed first second = first.flatMap fun a => second.map fun b => a ++ b := by
  rw [crossed]
  change List.map _ (first.flatMap fun a => second.map (Prod.mk a)) = _
  rw [List.map_flatMap]
  simp [Function.comp_def]

theorem crossed_nil_left (second : List (Tuple α)) : crossed [[]] second = second := by
  simp [crossed_eq_flatMap]

theorem crossed_nil_right (first : List (Tuple α)) : crossed first [[]] = first := by
  simp [crossed_eq_flatMap]

theorem crossed_assoc (first second third : List (Tuple α)) :
    crossed (crossed first second) third = crossed first (crossed second third) := by
  simp [crossed_eq_flatMap, List.flatMap_assoc, List.flatMap_map, List.map_flatMap,
    Function.comp_def]

theorem crossed_perm {first first' second second' : List (Tuple α)} (hfirst : first.Perm first')
    (hsecond : second.Perm second') : (crossed first second).Perm (crossed first' second') :=
  (hfirst.product hsecond).map _

/-- The product of several lists is that of its parts. -/
theorem products_append (first second : List (List (Tuple α))) :
    products (first ++ second) = crossed (products first) (products second) := by
  induction first with
  | nil => exact (crossed_nil_left _).symm
  | cons list rest ih => rw [List.cons_append, products, products, ih, crossed_assoc]

theorem products_singleton (list : List (Tuple α)) : products [list] = list :=
  crossed_nil_right list

/-- A product of lists that have tuples has some. -/
theorem products_ne_nil {lists : List (List (Tuple α))} (h : ∀ list ∈ lists, list ≠ []) :
    products lists ≠ [] := by
  induction lists with
  | nil => exact List.cons_ne_nil _ _
  | cons first rest ih =>
    rw [List.forall_mem_cons] at h
    obtain ⟨a, ha⟩ := List.exists_mem_of_ne_nil _ h.1
    obtain ⟨b, hb⟩ := List.exists_mem_of_ne_nil _ (ih h.2)
    exact List.ne_nil_of_mem (mem_crossed_iff.2 ⟨a, ha, b, hb, rfl⟩)

theorem RangeOver.crossed {levels others : List Level} {first second : List (Tuple α)}
    (hfirst : RangeOver levels first) (hsecond : RangeOver others second) :
    RangeOver (levels ++ others) (crossed first second) := by
  intro tuple htuple
  obtain ⟨a, ha, b, hb, rfl⟩ := mem_crossed_iff.1 htuple
  rw [List.map_append, hfirst a ha, hsecond b hb]

/-- A product repeats no tuple if its factors do not: the levels tell where a tuple is cut. -/
theorem nodup_crossed {levels : List Level} {first second : List (Tuple α)}
    (hlevels : RangeOver levels first) (hfirst : first.Nodup) (hsecond : second.Nodup) :
    (crossed first second).Nodup := by
  apply List.Nodup.map_on _ (hfirst.product hsecond)
  rintro ⟨a, b⟩ hab ⟨c, d⟩ hcd heq
  -- First parts have a member for each of the same levels, hence the same length.
  have ha := hlevels a (List.mem_product.1 hab).1
  have hc := hlevels c (List.mem_product.1 hcd).1
  have hlength : a.length = c.length := by
    rw [← List.length_map Prod.fst, ha, ← hc, List.length_map]
  obtain ⟨rfl, rfl⟩ := List.append_inj heq hlength
  rfl

/-- Projecting a tuple to the levels of its first part gives that part back. -/
theorem at_append {levels : List Level} (hlevels : levels.Nodup) {first : Tuple α}
    (hfirst : first.map Prod.fst = levels) (second : Tuple α) :
    Tuple.at (first ++ second) levels = first := by
  induction first generalizing levels with
  | nil =>
    rw [← hfirst]
    rfl
  | cons coordinate rest ih =>
    rw [List.map_cons] at hfirst
    subst hfirst
    rw [List.nodup_cons] at hlevels
    -- Levels do not repeat, so that no later level finds the first coordinate.
    have hrest : Tuple.at (coordinate :: (rest ++ second)) (rest.map Prod.fst) =
        Tuple.at (rest ++ second) (rest.map Prod.fst) := by
      apply List.filterMap_congr
      intro level hlevel
      have hne : coordinate.1 ≠ level := by
        rintro rfl
        exact hlevels.1 hlevel
      simp [hne]
    have hhere : (List.find? (fun other => other.1 == coordinate.1)
        (coordinate :: (rest ++ second))) = some coordinate := by
      simp
    rw [List.cons_append, Tuple.at, List.filterMap_cons, hhere]
    exact congrArg (coordinate :: ·) (hrest.trans (ih hlevels.2 rfl))

/-! ## Readings -/

/-- An interpretation of sets as lists of tuples. -/
structure Reading (α : Type) where
  tuples : SetExpr → List (Tuple α)
  /-- The members of a level, with the aggregate member or without it. -/
  members : Level → Bool → List α
  tuples_all : ∀ level includeAll, tuples (level.all includeAll) =
    (members level includeAll).map fun member => [(level, member)]
  tuples_crossJoin : ∀ first rest,
    tuples (.crossJoin first rest) = products ((first :: rest).map tuples)
  tuples_order_perm : ∀ set key direction, (tuples (.order set key direction)).Perm (tuples set)
  mem_tuples_extract_iff : ∀ set levels tuple,
    tuple ∈ tuples (.extract set levels) ↔ ∃ whole ∈ tuples set, whole.at levels = tuple
  nodup_tuples_extract : ∀ set levels, (tuples (.extract set levels)).Nodup

namespace Reading

variable (reading : Reading α)

theorem tuples_of_product? {sets : List SetExpr} {set : SetExpr}
    (h : SetExpr.product? sets = .ok set) :
    reading.tuples set = products (sets.map reading.tuples) := by
  cases sets with
  | nil => cases h
  | cons first rest =>
    cases h
    cases rest with
    | nil => exact (products_singleton _).symm
    | cons second rest => exact reading.tuples_crossJoin _ _

theorem rangeOver_all (level : Level) (includeAll : Bool) :
    RangeOver [level] (reading.tuples (level.all includeAll)) := by
  rw [reading.tuples_all]
  intro tuple htuple
  obtain ⟨member, -, rfl⟩ := List.mem_map.1 htuple
  rfl

/-- Sorting rearranges a set, whatever the keys. -/
theorem tuples_sort_perm (options : Options) (set : SetExpr) :
    (reading.tuples (options.sort set)).Perm (reading.tuples set) := by
  rw [Options.sort]
  induction options.orderBy with
  | nil => exact .refl _
  | cons key rest ih =>
    rw [List.foldr_cons]
    cases key.level with
    | none => exact ih
    | some level => exact (reading.tuples_order_perm _ _ _).trans ih

end Reading

/-! ## A server that keeps the order of sets -/

section Sample

variable [DecidableEq α] (members : Level → Bool → List α)

mutual

/-- The tuples of a set on a server with the given members that ignores sort keys. Functions that
sorting is not made of are read as empty. -/
def SetExpr.unsortedTuples : SetExpr → List (Tuple α)
  | .children level => (members level false).map fun member => [(level, member)]
  | .members level => (members level true).map fun member => [(level, member)]
  | .crossJoin first rest => crossed (first.unsortedTuples) (unsortedProduct rest)
  | .order set _ _ => set.unsortedTuples
  | .extract set levels => (set.unsortedTuples.map fun tuple => tuple.at levels).dedup
  | _ => []

/-- The product of the tuples of several sets. -/
def unsortedProduct : List SetExpr → List (Tuple α)
  | [] => [[]]
  | set :: rest => crossed (set.unsortedTuples) (unsortedProduct rest)

end

theorem unsortedProduct_eq_products (sets : List SetExpr) :
    unsortedProduct members sets = products (sets.map (·.unsortedTuples members)) := by
  induction sets with
  | nil => rw [unsortedProduct]; rfl
  | cons set rest ih => rw [unsortedProduct, ih]; rfl

/-- The reading of a server that ignores sort keys. -/
def Reading.unsorted : Reading α where
  tuples := SetExpr.unsortedTuples members
  members := members
  tuples_all := by
    intro level includeAll
    cases includeAll with
    | false => simp [Level.all, SetExpr.unsortedTuples]
    | true => simp [Level.all, SetExpr.unsortedTuples]
  tuples_crossJoin := by
    intro first rest
    rw [SetExpr.unsortedTuples, unsortedProduct_eq_products]
    rfl
  tuples_order_perm := by
    intro set key direction
    rw [SetExpr.unsortedTuples]
  mem_tuples_extract_iff := by
    intro set levels tuple
    rw [SetExpr.unsortedTuples, List.mem_dedup, List.mem_map]
  nodup_tuples_extract := by
    intro set levels
    rw [SetExpr.unsortedTuples]
    exact List.nodup_dedup _

end Sample

end CubeQuery.Mdx
