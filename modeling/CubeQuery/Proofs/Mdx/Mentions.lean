import CubeQuery.Proofs.Mdx.Server

set_option autoImplicit false

/-!
# Names that expressions mention

An expression mentions the sets and members that a statement defines, and what a caller supplied:
the names of levels, and words where a value or a member is expected. A name that a caller supplies
is what it says, so that it may be a name that the statement defines.

A statement is bound if no definition is made twice, each is made of names that are defined before
it, and nothing that a caller supplied is a reserved name.

Main statements: a further definition keeps definitions bound (`Binds.concat`), and in a bound
statement every reserved name that is mentioned is defined once and ahead of every use
(`Statement.IsBound.definesBeforeUse`).
-/

namespace CubeQuery.Mdx

open Request (Options)

/-! ## Mentions -/

/-- A name in an expression: of a defined set, of a calculated member, or supplied by a caller. -/
inductive Mention where
  | set (name : NamedSet)
  | calculated (member : CalculatedMember)
  | supplied (text : String)

/-- The name itself. -/
def Mention.text : Mention → String
  | set name => name.text
  | calculated member => member.text
  | supplied text => text

/-- The name that a member goes by; a key is not a name. -/
def Member.mention : Member → Mention
  | named words => .supplied words
  | calculated member => .calculated member
  | keyed level _ => .supplied level.name

/-- The name of a level is the caller's. -/
def Level.mention (level : Level) : Mention :=
  .supplied level.name

theorem Level.mention_injective {first second : Level} (h : first.mention = second.mention) :
    first = second := by
  cases first
  cases h
  rfl

mutual

/-- The names in a set. -/
def SetExpr.mentions : SetExpr → List Mention
  | .words text => [.supplied text]
  | .named name => [.set name]
  | .children level => [level.mention]
  | .members level => [level.mention]
  | .childrenOf member => [member.mention]
  | .measures first rest => (first :: rest).map Level.mention
  | .listed first rest => (first :: rest).map Member.mention
  | .crossJoin first rest => first.mentions ++ mentionsOf rest
  | .union first rest => first.mentions ++ mentionsOf rest
  | .extract set levels => set.mentions ++ levels.map Level.mention
  | .filter set condition => set.mentions ++ condition.mentions
  | .nonEmpty set basis => set.mentions ++ optionalSetMentions basis
  | .order set key _ => set.mentions ++ key.mentions
  | .subset set start count => set.mentions ++ start.mentions ++ optionalMentions count
  | .head set count => set.mentions ++ optionalMentions count
  | .tail set count => set.mentions ++ optionalMentions count
  | .topCount set count sortBy => set.mentions ++ count.mentions ++ optionalMentions sortBy
  | .bottomCount set count sortBy => set.mentions ++ count.mentions ++ optionalMentions sortBy

/-- The names in several sets. -/
def mentionsOf : List SetExpr → List Mention
  | [] => []
  | set :: rest => set.mentions ++ mentionsOf rest

/-- The names in a set that may be left out. -/
def optionalSetMentions : Option SetExpr → List Mention
  | none => []
  | some set => set.mentions

/-- The names in an expression. -/
def Expr.mentions : Expr → List Mention
  | .string text => [.supplied text]
  | .numeric text => [.supplied text]
  | .mixed text => [.supplied text]
  | .logical text => [.supplied text]
  | .whole _ => []
  | .null => []
  | .level level => [level.mention]
  | .levelValue level => [level.mention]
  | .member member => [member.mention]
  | .set set => set.mentions
  | .count set _ => set.mentions
  | .compare left _ right => left.mentions ++ right.mentions
  | .iif condition thenValue elseValue =>
    condition.mentions ++ thenValue.mentions ++ elseValue.mentions

/-- The names in an expression that may be left out. -/
def optionalMentions : Option Expr → List Mention
  | none => []
  | some e => e.mentions

end

/-! ## Functions of sets -/

section Functions

variable {mention : Mention}

theorem mem_mentionsOf_iff {sets : List SetExpr} :
    mention ∈ mentionsOf sets ↔ ∃ set ∈ sets, mention ∈ set.mentions := by
  induction sets with
  | nil => simp [mentionsOf]
  | cons set rest ih => rw [mentionsOf, List.mem_append, ih, List.exists_mem_cons_iff]

/-- A cross join mentions what its factors mention. -/
theorem mem_mentions_product_iff {first : SetExpr} {rest : List SetExpr} :
    mention ∈ (first.product rest).mentions ↔ ∃ set ∈ first :: rest, mention ∈ set.mentions := by
  rw [← mem_mentionsOf_iff, mentionsOf]
  cases rest with
  | nil => rw [SetExpr.product, mentionsOf, List.append_nil]
  | cons second rest => rw [SetExpr.product, SetExpr.mentions]; exact nofun

theorem mem_mentions_of_product? {sets : List SetExpr} {set : SetExpr}
    (h : SetExpr.product? sets = .ok set) :
    mention ∈ set.mentions ↔ ∃ factor ∈ sets, mention ∈ factor.mentions := by
  cases sets with
  | nil => cases h
  | cons first rest =>
    cases h
    exact mem_mentions_product_iff

/-- Sorting adds the levels that are sorted by. -/
theorem mem_mentions_sort_iff {options : Options} {set : SetExpr} :
    mention ∈ (options.sort set).mentions ↔
      mention ∈ set.mentions ∨ ∃ level ∈ options.sortLevels, mention = level.mention := by
  rw [Options.sort, Options.sortLevels]
  induction options.orderBy with
  | nil => simp
  | cons key rest ih =>
    rw [List.foldr_cons, List.filterMap_cons]
    cases key.level with
    | none => exact ih
    | some level =>
      rw [SetExpr.mentions, List.mem_append, ih, List.exists_mem_cons_iff, or_assoc]
      apply or_congr_right
      rw [or_comm]
      exact or_congr_left List.mem_singleton

/-- A page mentions nothing more than the set that it is taken of. -/
theorem mem_mentions_page_iff {options : Options} {unsorted sorted : SetExpr}
    (h : mention ∈ unsorted.mentions → mention ∈ sorted.mentions) :
    mention ∈ (options.page unsorted sorted).mentions ↔ mention ∈ sorted.mentions := by
  have hcount : ∀ n : UInt64, (Expr.ofCount n).mentions = [] := fun n => by
    rw [Expr.ofCount, Expr.mentions]
  rw [Options.page]
  cases options.skip with
  | none =>
    cases options.top with
    | none => rfl
    | some top => simp [SetExpr.mentions, optionalMentions, hcount]
  | some skip =>
    cases options.top with
    | none =>
      -- Only here the unsorted set stands beside the sorted one, to be counted.
      simp only [SetExpr.mentions, optionalMentions, hcount, SetExpr.count, Expr.mentions,
        List.append_nil, List.mem_append]
      exact or_iff_left_of_imp h
    | some top => simp [SetExpr.mentions, optionalMentions, hcount]

/-- Sorting and paging add the levels that are sorted by. -/
theorem mem_mentions_arrange_iff {options : Options} {set : SetExpr} :
    mention ∈ (options.arrange set).mentions ↔
      mention ∈ set.mentions ∨ ∃ level ∈ options.sortLevels, mention = level.mention := by
  rw [Options.arrange, mem_mentions_page_iff, mem_mentions_sort_iff]
  intro hset
  exact mem_mentions_sort_iff.2 (.inl hset)

end Functions

/-! ## Statements -/

/-- The names in a definition, its own apart. -/
def Definition.mentions : Definition → List Mention
  | set _ value => value.mentions
  | member _ value _ => value.mentions

namespace Statement

/-- The names that a statement defines, in order. -/
def names (s : Statement) : List String :=
  s.definitions.map (·.name)

@[simp]
theorem names_defineSet (s : Statement) (name : String) (value : SetExpr) :
    (s.defineSet name value).names = s.names ++ [name] :=
  List.map_append

@[simp]
theorem names_defineMember (s : Statement) (name : String) (value : Expr)
    (caption : Option String) : (s.defineMember name value caption).names = s.names ++ [name] :=
  List.map_append

/-- The sets behind the definitions. -/
def clauses (s : Statement) : List SetExpr :=
  s.columns.toList ++ s.rows.toList ++ s.subSelect.toList ++ s.slicer.toList

/-- The names that a statement uses. -/
def mentions (s : Statement) : List Mention :=
  s.definitions.flatMap Definition.mentions ++ s.clauses.flatMap SetExpr.mentions

/-- A name is defined if it is used, once, and ahead of every definition that uses it. -/
structure DefinesBeforeUse (s : Statement) (name : String) : Prop where
  once : (∃ mention ∈ s.mentions, mention.text = name) → s.names.count name = 1
  ahead : ∀ before definition after, s.definitions = before ++ definition :: after →
    (∃ mention ∈ definition.mentions, mention.text = name) →
    ∃ earlier ∈ before, earlier.name = name

/-- Nothing that a caller supplied is a reserved name. -/
def KeepsNamesApart (s : Statement) : Prop :=
  ∀ text, Mention.supplied text ∈ s.mentions → text ∉ reservedNames

end Statement

/-! ## Bound names -/

/-- A mention that stands for what it says where the given names are defined. -/
def Mention.IsBound (names : List String) : Mention → Prop
  | set name => name.text ∈ names
  | calculated member => member.text ∈ names
  | supplied text => text ∉ reservedNames

theorem Mention.IsBound.mono {names others : List String} {mention : Mention}
    (h : mention.IsBound names) (hsubset : names ⊆ others) : mention.IsBound others := by
  cases mention with
  | set name => exact hsubset h
  | calculated member => exact hsubset h
  | supplied text => exact h

/-- A bound mention of a reserved name is one of a defined name. -/
theorem Mention.IsBound.mem_of_reserved {names : List String} {mention : Mention}
    (h : mention.IsBound names) (hreserved : mention.text ∈ reservedNames) :
    mention.text ∈ names := by
  cases mention with
  | set name => exact h
  | calculated member => exact h
  | supplied text => exact absurd hreserved h

/-- A set whose mentions are bound. -/
def SetExpr.IsBound (names : List String) (set : SetExpr) : Prop :=
  ∀ mention ∈ set.mentions, mention.IsBound names

theorem SetExpr.IsBound.mono {names others : List String} {set : SetExpr}
    (h : set.IsBound names) (hsubset : names ⊆ others) : set.IsBound others :=
  fun mention hmention => (h mention hmention).mono hsubset

/-- A defined set is bound by its name. -/
theorem isBound_named {names : List String} {name : NamedSet} (h : name.text ∈ names) :
    (SetExpr.named name).IsBound names := by
  intro mention hmention
  rw [SetExpr.mentions, List.mem_singleton] at hmention
  rw [hmention]
  exact h

/-- A calculated member is bound by its name. -/
theorem isBound_calculated {names : List String} {member : CalculatedMember}
    (h : member.text ∈ names) : (Member.calculated member).toSet.IsBound names := by
  intro mention hmention
  rw [Member.toSet, SetExpr.mentions, List.map_singleton, List.mem_singleton] at hmention
  rw [hmention]
  exact h

/-- A sorted and paged set is bound if the set is and no level sorted by has a reserved name. -/
theorem isBound_arrange {names : List String} {options : Options} {set : SetExpr}
    (h : set.IsBound names) (hsort : ∀ level ∈ options.sortLevels, level.name ∉ reservedNames) :
    (options.arrange set).IsBound names := by
  intro mention hmention
  rcases mem_mentions_arrange_iff.1 hmention with hset | ⟨level, hlevel, rfl⟩
  · exact h mention hset
  · exact hsort level hlevel

/-- Definitions that are made once and of names defined before. -/
structure Binds (definitions : List Definition) : Prop where
  distinct : (definitions.map (·.name)).Nodup
  ahead : ∀ before definition after, definitions = before ++ definition :: after →
    ∀ mention ∈ definition.mentions, mention.IsBound (before.map (·.name))

theorem binds_nil : Binds [] := by
  refine ⟨List.nodup_nil, ?_⟩
  intro before definition after h
  exact absurd h (List.append_ne_nil_of_right_ne_nil before (List.cons_ne_nil _ _)).symm

/-- A new definition of names that are defined keeps definitions bound. -/
theorem Binds.concat {definitions : List Definition} {definition : Definition}
    (h : Binds definitions) (hnew : definition.name ∉ definitions.map (·.name))
    (hbound : ∀ mention ∈ definition.mentions,
      mention.IsBound (definitions.map (·.name))) :
    Binds (definitions ++ [definition]) := by
  constructor
  · rw [List.map_append, List.map_singleton, List.nodup_append]
    refine ⟨h.distinct, List.pairwise_singleton _ _, ?_⟩
    intro name hname last hlast heq
    rw [List.mem_singleton.1 hlast] at heq
    exact hnew (heq ▸ hname)
  · intro before other after hsplit
    -- The definition in question is the new one, or it is among those before.
    rcases List.eq_nil_or_concat after with rfl | ⟨init, last, rfl⟩
    · obtain ⟨rfl, hlast⟩ := List.append_inj' hsplit rfl
      cases hlast
      exact hbound
    · rw [List.concat_eq_append, ← List.cons_append, ← List.append_assoc] at hsplit
      obtain ⟨hinit, -⟩ := List.append_inj' hsplit rfl
      exact h.ahead before other init hinit

theorem Binds.defineSet {s : Statement} {name : String} {value : SetExpr}
    (h : Binds s.definitions) (hnew : name ∉ s.names) (hvalue : value.IsBound s.names) :
    Binds (s.defineSet name value).definitions :=
  h.concat hnew hvalue

theorem Binds.defineMember {s : Statement} {name : String} {value : Expr}
    (h : Binds s.definitions) (hnew : name ∉ s.names)
    (hvalue : ∀ mention ∈ value.mentions, mention.IsBound s.names) (caption : Option String) :
    Binds (s.defineMember name value caption).definitions :=
  h.concat hnew hvalue

namespace Statement

/-- What is mentioned anywhere in a statement is mentioned in a definition or in a clause. -/
theorem mem_mentions_iff {s : Statement} {mention : Mention} :
    mention ∈ s.mentions ↔
      (∃ definition ∈ s.definitions, mention ∈ definition.mentions) ∨
        ∃ set ∈ s.clauses, mention ∈ set.mentions := by
  rw [mentions, List.mem_append, List.mem_flatMap, List.mem_flatMap]

/-- A statement whose definitions are bound, and whose clauses are bound by them. -/
structure IsBound (s : Statement) : Prop where
  definitions : Binds s.definitions
  clauses : ∀ set ∈ s.clauses, set.IsBound s.names

namespace IsBound

variable {s : Statement}

/-- In a bound statement every mention is bound by the definitions. -/
theorem mention (h : s.IsBound) {mention : Mention} (hmention : mention ∈ s.mentions) :
    mention.IsBound s.names := by
  rcases mem_mentions_iff.1 hmention with ⟨definition, hdefinition, hin⟩ | ⟨set, hset, hin⟩
  · obtain ⟨before, after, hsplit⟩ := List.append_of_mem hdefinition
    apply (h.definitions.ahead before definition after hsplit mention hin).mono
    rw [names, hsplit, List.map_append]
    exact List.subset_append_left _ _
  · exact h.clauses set hset mention hin

theorem keepsNamesApart (h : s.IsBound) : s.KeepsNamesApart :=
  fun _ htext => h.mention htext

/-- A bound statement defines every reserved name that it uses once and ahead of every use. -/
theorem definesBeforeUse (h : s.IsBound) {name : String} (hname : name ∈ reservedNames) :
    s.DefinesBeforeUse name := by
  constructor
  · rintro ⟨mention, hmention, rfl⟩
    have hdefined := (h.mention hmention).mem_of_reserved hname
    exact List.count_eq_one_of_mem h.definitions.distinct hdefined
  · rintro before definition after hsplit ⟨mention, hmention, rfl⟩
    have hbound := h.definitions.ahead before definition after hsplit mention hmention
    exact List.mem_map.1 (hbound.mem_of_reserved hname)

end IsBound

end Statement

end CubeQuery.Mdx
