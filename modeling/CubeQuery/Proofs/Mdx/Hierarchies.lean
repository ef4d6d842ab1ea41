import CubeQuery.Mdx.Statement
import CubeQuery.Request.Options

set_option autoImplicit false

/-!
# Hierarchies of sets

Which hierarchies the tuples of a set range over, in order. A level stands for the hierarchy that it
belongs to, and all measures belong to one. A set by name has the hierarchies of its definition, so
that sets are read in the scope of the definitions of their statement; what a caller puts in words
has no hierarchies that are known.

Main statements: a cross join ranges over the hierarchies of its factors
(`hierarchies?_of_product?`), and sorting and paging keep those of a set (`hierarchies?_arrange`).
-/

namespace CubeQuery.Mdx

open Request (Options)

/-! ## Sets -/

/-- The hierarchy of all measures. -/
def measuresHierarchy : Level :=
  ⟨"[Measures]"⟩

/-- The hierarchies of the sets that have names; a name without a definition has none. -/
abbrev Scope := NamedSet → Option (List Level)

/-- The hierarchy of a member, unless it is in a caller's words. -/
def Member.hierarchy? : Member → Option Level
  | named _ => none
  | calculated _ => some measuresHierarchy
  | keyed level _ => some level

/-- The hierarchies of operands that are to have the same. -/
def agreed (first : List Level) (rest : List (List Level)) : Option (List Level) :=
  if rest.all (· == first) then some first else none

mutual

/-- The hierarchies that the tuples of a set range over. -/
def SetExpr.hierarchies? (scope : Scope) : SetExpr → Option (List Level)
  | .words _ => none
  | .named name => scope name
  | .children level => some [level]
  | .members level => some [level]
  | .childrenOf member => member.hierarchy?.map fun hierarchy => [hierarchy]
  | .measures _ _ => some [measuresHierarchy]
  | .listed first rest => do
    let hierarchy ← first.hierarchy?
    agreed [hierarchy] (← rest.mapM fun member => member.hierarchy?.map fun other => [other])
  | .crossJoin first rest => do
    let hierarchies ← first.hierarchies? scope
    let others ← hierarchiesOf? scope rest
    some (hierarchies ++ others.flatten)
  | .union first rest => do
    let hierarchies ← first.hierarchies? scope
    agreed hierarchies (← hierarchiesOf? scope rest)
  | .extract _ levels => some levels
  | .filter set _ => set.hierarchies? scope
  | .nonEmpty set _ => set.hierarchies? scope
  | .order set _ _ => set.hierarchies? scope
  | .subset set _ _ => set.hierarchies? scope
  | .head set _ => set.hierarchies? scope
  | .tail set _ => set.hierarchies? scope
  | .topCount set _ _ => set.hierarchies? scope
  | .bottomCount set _ _ => set.hierarchies? scope

/-- The hierarchies of several sets. -/
def hierarchiesOf? (scope : Scope) : List SetExpr → Option (List (List Level))
  | [] => some []
  | set :: rest => do
    let hierarchies ← set.hierarchies? scope
    let others ← hierarchiesOf? scope rest
    some (hierarchies :: others)

end

section Functions

variable {scope : Scope}

/-- The set of a level ranges over the level, with the aggregate member or without it. -/
theorem Level.hierarchies?_all (level : Level) (includeAll : Bool) :
    (level.all includeAll).hierarchies? scope = some [level] := by
  cases includeAll with
  | false => simp [Level.all, SetExpr.hierarchies?]
  | true => simp [Level.all, SetExpr.hierarchies?]

theorem hierarchiesOf?_cons_eq_some_iff {set : SetExpr} {rest : List SetExpr}
    {lists : List (List Level)} :
    hierarchiesOf? scope (set :: rest) = some lists ↔
      ∃ hierarchies, set.hierarchies? scope = some hierarchies ∧
        ∃ others, hierarchiesOf? scope rest = some others ∧ hierarchies :: others = lists := by
  simp only [hierarchiesOf?, Option.bind_eq_bind, Option.bind_eq_some_iff, Option.some.injEq]

theorem hierarchiesOf?_append {first second : List SetExpr} {lists others : List (List Level)}
    (hfirst : hierarchiesOf? scope first = some lists)
    (hsecond : hierarchiesOf? scope second = some others) :
    hierarchiesOf? scope (first ++ second) = some (lists ++ others) := by
  induction first generalizing lists with
  | nil =>
    rw [hierarchiesOf?, Option.some.injEq] at hfirst
    rw [← hfirst]
    exact hsecond
  | cons set rest ih =>
    obtain ⟨hierarchies, hset, tail, hrest, rfl⟩ := hierarchiesOf?_cons_eq_some_iff.1 hfirst
    rw [List.cons_append, hierarchiesOf?_cons_eq_some_iff]
    exact ⟨hierarchies, hset, tail ++ others, ih hrest, rfl⟩

/-- A cross join ranges over the hierarchies of its factors. -/
theorem hierarchies?_of_product? {sets : List SetExpr} {set : SetExpr} {lists : List (List Level)}
    (hset : SetExpr.product? sets = .ok set) (hlists : hierarchiesOf? scope sets = some lists) :
    set.hierarchies? scope = some lists.flatten := by
  cases sets with
  | nil => cases hset
  | cons first rest =>
    cases hset
    obtain ⟨hierarchies, hfirst, others, hrest, rfl⟩ := hierarchiesOf?_cons_eq_some_iff.1 hlists
    cases rest with
    | nil =>
      -- A single factor is left as it is.
      rw [hierarchiesOf?, Option.some.injEq] at hrest
      simp [SetExpr.product, hfirst, ← hrest]
    | cons second rest => simp [SetExpr.product, SetExpr.hierarchies?, hfirst, hrest]

theorem hierarchies?_sort (options : Options) (set : SetExpr) :
    (options.sort set).hierarchies? scope = set.hierarchies? scope := by
  rw [Options.sort]
  induction options.orderBy with
  | nil => rfl
  | cons key rest ih =>
    rw [List.foldr_cons]
    cases key.level with
    | none => exact ih
    | some level =>
      rw [SetExpr.hierarchies?]
      exact ih

theorem hierarchies?_page (options : Options) (unsorted sorted : SetExpr) :
    (options.page unsorted sorted).hierarchies? scope = sorted.hierarchies? scope := by
  rw [Options.page]
  cases options.skip <;> cases options.top <;> simp [SetExpr.hierarchies?]

/-- Sorting and paging keep the hierarchies of a set. -/
theorem hierarchies?_arrange (options : Options) (set : SetExpr) :
    (options.arrange set).hierarchies? scope = set.hierarchies? scope := by
  rw [Options.arrange, hierarchies?_page, hierarchies?_sort]

end Functions

/-! ## Statements -/

/-- The scope with a further definition, which is read in the scope before it. -/
def Definition.extend (scope : Scope) : Definition → Scope
  | set name value => fun other =>
    if other.text = name then value.hierarchies? scope else scope other
  | member _ _ _ => scope

namespace Statement

/-- The scope of the axes of a statement. -/
def scope (s : Statement) : Scope :=
  s.definitions.foldl Definition.extend fun _ => none

/-- The hierarchies of the rows of a statement. -/
def rowHierarchies? (s : Statement) : Option (List Level) :=
  s.rows.bind (·.hierarchies? s.scope)

theorem scope_defineMember (s : Statement) (name : String) (value : Expr)
    (caption : Option String) : (s.defineMember name value caption).scope = s.scope := by
  rw [scope, defineMember, List.foldl_append]
  rfl

/-- A definition leaves the sets with other names alone. -/
theorem scope_defineSet_of_ne (s : Statement) {name other : NamedSet} (h : other ≠ name)
    (value : SetExpr) : (s.defineSet name.text value).scope other = s.scope other := by
  rw [scope, defineSet, List.foldl_append]
  exact if_neg fun htext => h (NamedSet.text_injective htext)

/-- A defined set has the hierarchies of its definition. -/
theorem scope_defineSet_self (s : Statement) (name : NamedSet) (value : SetExpr) :
    (s.defineSet name.text value).scope name = value.hierarchies? s.scope := by
  rw [scope, defineSet, List.foldl_append]
  exact if_pos rfl

end Statement

end CubeQuery.Mdx
