import CubeQuery.Proofs.Mdx.StableSort
import CubeQuery.Request.Options

set_option autoImplicit false

/-!
# Sorted and paged sets

A query sorts a set with one ORDER for each sort key, of which the last key stands innermost, and
cuts a page out of the result. A `SortReading` is what a server makes of such sets if it sorts
stably by the text of the key and the direction, slices by position, and counts tuples; all other
sets may be read in any way.

A page that drops rows and keeps all others keeps as many as the unsorted set has, since sorting
changes no number of tuples.

Main statement: the arranged set is the page of the set sorted by its keys in their order, the first
weighing most (`tuples_arrange`).
-/

namespace CubeQuery.Mdx

open Request (Options SortKey)

variable {α : Type}

/-- The expression that tuples are compared by under a level: a measure's own value, or the member
value of another level. -/
def Level.sortText (level : Level) : String :=
  if level.isMeasure then level.name else level.name ++ ".MEMBER_VALUE"

theorem Level.text_value (level : Level) : level.value.expr.text = level.sortText := by
  rw [Level.value, Level.sortText, Expr.text]

/-- The tuples that a page shows: the first `skip` are dropped, and of the others at most `top` are
kept. -/
def pageOf (skip top : Option UInt64) (tuples : List α) : List α :=
  match top with
  | some top => (tuples.drop ((skip.map UInt64.toNat).getD 0)).take top.toNat
  | none => tuples.drop ((skip.map UInt64.toNat).getD 0)

/-- An interpretation of sets as lists of tuples in which sorting is stable. -/
structure SortReading (α : Type) where
  tuples : SetExpr → List α
  number : Expr → Nat
  /-- Whether a tuple comes before another one, or ties with it, by the text of a key. -/
  precedes : String → Option Direction → α → α → Bool
  isTotalPreorder_precedes : ∀ key direction, IsTotalPreorder (precedes key direction)
  isStableSort_order : ∀ set (key : Expr) direction,
    IsStableSort (precedes key.text direction) (tuples set) (tuples (.order set key direction))
  tuples_subset : ∀ set start count,
    tuples (.subset set start (some count)) =
      ((tuples set).drop (number start)).take (number count)
  tuples_head : ∀ set count, tuples (.head set (some count)) = (tuples set).take (number count)
  number_whole : ∀ n : Nat, number (.whole n) = n
  number_count : ∀ set, number (.count set false) = (tuples set).length

namespace SortReading

variable (reading : SortReading α)

/-- The orders that sort keys stand for. Keys without a level stand for none. -/
def orders (keys : List SortKey) : List (α → α → Bool) :=
  keys.filterMap fun key =>
    key.level.map fun level => reading.precedes level.sortText key.direction

theorem isTotalPreorder_orders (keys : List SortKey) :
    IsTotalPreorder (lexicographic (reading.orders keys)) := by
  apply isTotalPreorder_lexicographic
  intro le hle
  obtain ⟨key, -, hkey⟩ := List.mem_filterMap.1 hle
  obtain ⟨level, -, rfl⟩ := Option.map_eq_some_iff.1 hkey
  exact reading.isTotalPreorder_precedes _ _

/-- The sorted set is sorted by all keys, the first weighing most. -/
theorem isStableSort_sort (options : Options) (set : SetExpr) :
    IsStableSort (lexicographic (reading.orders options.orderBy)) (reading.tuples set)
      (reading.tuples (options.sort set)) := by
  rw [Options.sort]
  induction options.orderBy with
  | nil => exact isStableSort_nil _
  | cons key rest ih =>
    rw [List.foldr_cons, orders, List.filterMap_cons]
    cases hlevel : key.level with
    | none => exact ih
    | some level =>
      have hlast := fun sorted => reading.isStableSort_order sorted level.value.expr key.direction
      rw [level.text_value] at hlast
      exact ih.lexicographic_cons (hlast _) (reading.isTotalPreorder_precedes _ _)

theorem number_ofCount (n : UInt64) : reading.number (.ofCount n) = n.toNat :=
  reading.number_whole n.toNat

/-- A page is the page of the tuples, if sorting has changed no number of them. -/
theorem tuples_page (options : Options) {unsorted sorted : SetExpr}
    (h : (reading.tuples unsorted).length = (reading.tuples sorted).length) :
    reading.tuples (options.page unsorted sorted) =
      pageOf options.skip options.top (reading.tuples sorted) := by
  rw [Options.page]
  cases hskip : options.skip with
  | none =>
    cases htop : options.top with
    | none => rfl
    | some top =>
      simp only [reading.tuples_head, reading.number_ofCount]
      rfl
  | some skip =>
    cases htop : options.top with
    | none =>
      have hcount : reading.number (unsorted.count false).expr =
          (reading.tuples unsorted).length := reading.number_count unsorted
      simp only [reading.tuples_subset, reading.number_ofCount, hcount]
      -- There are no more tuples behind the dropped ones than there are tuples.
      apply List.take_of_length_le
      rw [List.length_drop, h]
      exact Nat.sub_le _ _
    | some top =>
      simp only [reading.tuples_subset, reading.number_ofCount]
      rfl

/-- **Sorting is lexicographic, and paging cuts out a part of it.** The arranged set has the tuples
of the set in the order of all sort keys, of which the first weighs most and later ones decide
between ties, and what ties by all of them stays as it was; of these it has the page. -/
theorem tuples_arrange (options : Options) (set : SetExpr) :
    reading.tuples (options.arrange set) =
      pageOf options.skip options.top
        ((reading.tuples set).mergeSort (lexicographic (reading.orders options.orderBy))) := by
  have hsort := reading.isStableSort_sort options set
  rw [Options.arrange, reading.tuples_page options hsort.perm.length_eq.symm,
    hsort.eq_mergeSort (reading.isTotalPreorder_orders _)]

end SortReading

/-! ## A server that sorts -/

section Sorting

variable (base : SetExpr → List α) (precedes : String → Option Direction → α → α → Bool)

mutual

/-- The tuples of a set that is sorted and sliced. All other sets are given. -/
def SetExpr.sortedTuples : SetExpr → List α
  | .order set key direction => (SetExpr.sortedTuples set).mergeSort (precedes key.text direction)
  | .subset set start (some count) =>
    ((SetExpr.sortedTuples set).drop (Expr.sortedNumber start)).take (Expr.sortedNumber count)
  | .head set (some count) => (SetExpr.sortedTuples set).take (Expr.sortedNumber count)
  | set => base set

/-- A number as it is written, or the number of tuples of a set. -/
def Expr.sortedNumber : Expr → Nat
  | .whole n => n.toNat
  | .count set false => (SetExpr.sortedTuples set).length
  | _ => 0

end

/-- The reading of a server that sorts by given orders. -/
def SortReading.ofOrders (h : ∀ key direction, IsTotalPreorder (precedes key direction)) :
    SortReading α where
  tuples := SetExpr.sortedTuples base precedes
  number := Expr.sortedNumber base precedes
  precedes := precedes
  isTotalPreorder_precedes := h
  isStableSort_order := by
    intro set key direction
    rw [SetExpr.sortedTuples]
    exact isStableSort_mergeSort (h _ _) _
  tuples_subset := by
    intro set start count
    rw [SetExpr.sortedTuples]
  tuples_head := by
    intro set count
    rw [SetExpr.sortedTuples]
  number_whole := by
    intro n
    rw [Expr.sortedNumber, Int.toNat_natCast]
  number_count := by
    intro set
    rw [Expr.sortedNumber]

end Sorting

/-- A city in a year and its sales. -/
private abbrev CityYear := String × Nat × Nat

/-- The number that a city in a year has under a key. -/
private def CityYear.under (key : String) (tuple : CityYear) : Nat :=
  if key = "[Measures].[Sales]" then tuple.2.2
  else if key = "[Date].[Year].MEMBER_VALUE" then tuple.2.1 else 0

/-- Cities in years by a key, upwards or downwards. -/
private def CityYear.precedes (key : String) (direction : Option Direction) (a b : CityYear) :
    Bool :=
  if direction = some .descending then decide (b.under key ≤ a.under key)
  else decide (a.under key ≤ b.under key)

private theorem CityYear.isTotalPreorder_precedes (key : String) (direction : Option Direction) :
    IsTotalPreorder (CityYear.precedes key direction) := by
  by_cases hdown : direction = some .descending
  · refine ⟨fun a b c => ?_, fun a b => ?_⟩
    · simp only [precedes, if_pos hdown, decide_eq_true_eq]
      omega
    · simp only [precedes, if_pos hdown, Bool.or_eq_true, decide_eq_true_eq]
      omega
  · refine ⟨fun a b c => ?_, fun a b => ?_⟩
    · simp only [precedes, if_neg hdown, decide_eq_true_eq]
      omega
    · simp only [precedes, if_neg hdown, Bool.or_eq_true, decide_eq_true_eq]
      omega

/-- Four cities in years, three of them with the same sales. -/
private def citiesInYears : List CityYear :=
  [("Bern", 2020, 5), ("Chur", 2019, 5), ("Aarau", 2020, 7), ("Basel", 2019, 5)]

private def cityReading : SortReading CityYear :=
  .ofOrders (fun _ => citiesInYears) CityYear.precedes CityYear.isTotalPreorder_precedes

/-- By falling sales and then by year, with a key between them that names no level, from the second
row on. -/
private def bySalesThenYear : Options :=
  ⟨[], [.descending ⟨"[Measures].[Sales]"⟩, ⟨none, none⟩, .ofLevel ⟨"[Date].[Year]"⟩], some 1, none,
    false⟩

/-- The best city is dropped. The others have the same sales: the one of the later year comes last,
and the two of the same year stay as they are. -/
theorem tuples_arrange_cities :
    cityReading.tuples (bySalesThenYear.arrange (.children ⟨"[Geo].[City]"⟩)) =
      [("Chur", 2019, 5), ("Basel", 2019, 5), ("Bern", 2020, 5)] := by
  have horders : cityReading.orders bySalesThenYear.orderBy =
      [CityYear.precedes "[Measures].[Sales]" (some .descending),
        CityYear.precedes "[Date].[Year].MEMBER_VALUE" none] := rfl
  have htuples : cityReading.tuples (.children ⟨"[Geo].[City]"⟩) = citiesInYears := rfl
  rw [cityReading.tuples_arrange, horders, htuples]
  simp [pageOf, bySalesThenYear, citiesInYears, List.mergeSort, List.MergeSort.Internal.splitInTwo,
    lexicographic, CityYear.precedes, CityYear.under]

end CubeQuery.Mdx
