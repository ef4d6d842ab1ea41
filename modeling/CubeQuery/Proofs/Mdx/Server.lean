import CubeQuery.Mdx.Statement
import CubeQuery.Proofs.Mdx.Reading

set_option autoImplicit false

/-!
# Statements on a server

A server reads the sets of a statement behind its definitions, of which later ones may use earlier
ones. A defined set is read as its definition was read where it stands; whatever else definitions
change, such as which tuples meet a condition on a calculated member, is left to the server. A
server stands for one cube under one sub-select and slicer.

Two kinds of server say more, and list the members of a level once each. An `OrderedServer` gives
the tuples of a set in an order that slices and projections keep. A `DataServer` knows which tuples
have data for which measures, and a tuple that leaves out a level has data through its completions.

Main statements: definitions with other names leave a defined set alone (`tuples_defineSet_of_ne`,
`tuples_defineMember`), and a statement has the total of the set that its row count counts
(`countedSet?_defineMember`).
-/

namespace CubeQuery.Mdx

/-! ## Definitions -/

/-- The name that a definition is for. -/
def Definition.name : Definition → String
  | set name _ => name
  | member name _ _ => name

/-- The set that a definition counts, if it is that of the row count. -/
def Definition.counted? : Definition → Option SetExpr
  | member name (.count counted false) _ =>
    if name = CalculatedMember.totalCount.text then some counted else none
  | _ => none

/-- The set that the row count of a statement counts. -/
def Statement.countedSet? (s : Statement) : Option SetExpr :=
  s.definitions.findSome? Definition.counted?

theorem Statement.countedSet?_defineSet (s : Statement) (name : String) (value : SetExpr) :
    (s.defineSet name value).countedSet? = s.countedSet? := by
  have hnone : (Definition.set name value).counted? = none := rfl
  rw [countedSet?, defineSet, List.findSome?_append, List.findSome?_singleton, hnone,
    Option.or_none, countedSet?]

theorem Statement.countedSet?_defineMember (s : Statement) (name : String) (value : Expr)
    (caption : Option String) :
    (s.defineMember name value caption).countedSet? =
      s.countedSet?.or (Definition.member name value caption).counted? := by
  rw [countedSet?, defineMember, List.findSome?_append, List.findSome?_singleton]
  rfl

/-! ## Lists without their repeats -/

section Repeats

variable {β : Type} [BEq β] [LawfulBEq β]

theorem nodup_eraseDups (list : List β) : list.eraseDups.Nodup := by
  induction hlength : list.length using Nat.strongRecOn generalizing list with
  | ind length ih =>
    cases list with
    | nil => exact List.nodup_nil
    | cons first rest =>
      rw [List.eraseDups_cons, List.nodup_cons]
      constructor
      · intro hfirst
        simpa using List.mem_eraseDups.1 hfirst
      · refine ih _ ?_ _ rfl
        rw [← hlength, List.length_cons]
        exact Nat.lt_succ_of_le (List.length_filter_le _ _)

/-- A list without repeats loses nothing. -/
theorem eraseDups_of_nodup {list : List β} (h : list.Nodup) : list.eraseDups = list := by
  induction list with
  | nil => rfl
  | cons first rest ih =>
    rw [List.nodup_cons] at h
    have hrest : (rest.filter fun other => !other == first) = rest := by
      apply List.filter_eq_self.2
      intro other hother
      have hne : other ≠ first := fun heq => h.1 (heq ▸ hother)
      simpa using hne
    rw [List.eraseDups_cons, hrest, ih h.2]

theorem eraseDups_filter (p : β → Bool) (list : List β) :
    (list.filter p).eraseDups = list.eraseDups.filter p := by
  induction hlength : list.length using Nat.strongRecOn generalizing list with
  | ind length ih =>
    cases list with
    | nil => rfl
    | cons first rest =>
      have hshort : (rest.filter fun other => !other == first).length < length := by
        rw [← hlength, List.length_cons]
        exact Nat.lt_succ_of_le (List.length_filter_le _ _)
      have hrest := ih _ hshort (rest.filter fun other => !other == first) rfl
      rw [List.filter_filter] at hrest
      by_cases hfirst : p first = true
      · rw [List.filter_cons_of_pos hfirst, List.eraseDups_cons, List.eraseDups_cons,
          List.filter_cons_of_pos hfirst, ← hrest, List.filter_filter]
        simp only [Bool.and_comm]
      · -- What is dropped with the first element has no elements equal to it anyway.
        have hsame : rest.filter p = rest.filter fun other => p other && !other == first := by
          apply List.filter_congr
          intro other _
          by_cases heq : other = first
          · simp [heq, hfirst]
          · simp [heq]
        rw [List.filter_cons_of_neg hfirst, List.eraseDups_cons, List.filter_cons_of_neg hfirst,
          ← hrest, hsame]

/-- Parts may be rid of their repeats before they are joined. -/
theorem eraseDups_flatMap_eraseDups {γ : Type} (list : List γ) (parts : γ → List β) :
    (list.flatMap fun index => (parts index).eraseDups).eraseDups =
      (list.flatMap parts).eraseDups := by
  induction list with
  | nil => rfl
  | cons first rest ih =>
    have hsame : ∀ others : List β, others.removeAll (parts first).eraseDups =
        others.filter fun other => !(parts first).elem other := by
      intro others
      apply List.filter_congr
      intro other _
      rw [Bool.eq_iff_iff]
      simp
    rw [List.flatMap_cons, List.flatMap_cons, List.eraseDups_append, List.eraseDups_append, hsame,
      eraseDups_filter, ih, ← eraseDups_filter, eraseDups_of_nodup (nodup_eraseDups _)]
    rfl

end Repeats

/-! ## Servers -/

variable {α : Type}

/-- A reading of sets behind each list of definitions. -/
structure Server (α : Type) where
  reading : List Definition → Reading α
  /-- The members of a level, which no definition changes. -/
  members : Level → Bool → List α
  members_reading : ∀ definitions, (reading definitions).members = members
  tuples_defined : ∀ definitions (name : NamedSet) value,
    (reading (definitions ++ [.set name.text value])).tuples (.named name) =
      (reading definitions).tuples value
  tuples_kept : ∀ definitions definition (name : NamedSet), definition.name ≠ name.text →
    (reading (definitions ++ [definition])).tuples (.named name) =
      (reading definitions).tuples (.named name)

/-- A server of which it is known in which order tuples come. -/
structure OrderedServer (α : Type) [DecidableEq α] extends Server α where
  nodup_members : ∀ level includeAll, (members level includeAll).Nodup
  tuples_extract : ∀ definitions set levels,
    (reading definitions).tuples (.extract set levels) =
      (((reading definitions).tuples set).map fun tuple => tuple.at levels).eraseDups
  tuples_subset : ∀ definitions set (start count : UInt64),
    (reading definitions).tuples (.subset set (.ofCount start) (some (.ofCount count))) =
      (((reading definitions).tuples set).drop start.toNat).take count.toNat
  tuples_filter_sublist : ∀ definitions set condition,
    ((reading definitions).tuples (.filter set condition)).Sublist
      ((reading definitions).tuples set)
  length_tuples_measures : ∀ definitions first rest,
    ((reading definitions).tuples (.measures first rest)).length = rest.length + 1

/-- A server of which it is known what has data: a tuple for a tuple of measures. -/
structure DataServer (α : Type) extends Server α where
  nodup_members : ∀ level includeAll, (members level includeAll).Nodup
  hasData : Tuple α → Tuple α → Bool
  tuples_nonEmpty : ∀ definitions set basis,
    (reading definitions).tuples (.nonEmpty set (some basis)) =
      ((reading definitions).tuples set).filter fun tuple =>
        ((reading definitions).tuples basis).any (hasData tuple)
  /-- A tuple that leaves out a level has data exactly if some completion by a member of it has. -/
  hasData_iff_completion : ∀ before after measure level includeAll, level.isMeasure = false →
    level ∉ (before ++ after).map Prod.fst →
    (hasData (before ++ after) measure = true ↔
      ∃ member ∈ members level includeAll,
        hasData (before ++ (level, member) :: after) measure = true)

namespace Server

variable (server : Server α)

/-- The rows that a server gives for a statement, if it has any on an axis. -/
def rows? (statement : Statement) : Option (List (Tuple α)) :=
  statement.rows.map (server.reading statement.definitions).tuples

/-- The row count that a server gives for a statement that defines it. -/
def total? (statement : Statement) : Option Nat :=
  statement.countedSet?.map fun set =>
    ((server.reading statement.definitions).tuples set).length

theorem tuples_all (definitions : List Definition) (level : Level) (includeAll : Bool) :
    (server.reading definitions).tuples (level.all includeAll) =
      (server.members level includeAll).map fun member => [(level, member)] := by
  rw [(server.reading definitions).tuples_all, server.members_reading]

theorem tuples_defineSet_self (s : Statement) (name : NamedSet) (value : SetExpr) :
    (server.reading (s.defineSet name.text value).definitions).tuples (.named name) =
      (server.reading s.definitions).tuples value :=
  server.tuples_defined _ name value

theorem tuples_defineSet_of_ne (s : Statement) {name other : NamedSet} (h : other ≠ name)
    (value : SetExpr) :
    (server.reading (s.defineSet name.text value).definitions).tuples (.named other) =
      (server.reading s.definitions).tuples (.named other) := by
  apply server.tuples_kept
  intro htext
  exact h (NamedSet.text_injective htext.symm)

/-- Calculated members leave defined sets alone. -/
theorem tuples_defineMember (s : Statement) (member : CalculatedMember) (value : Expr)
    (caption : Option String) (name : NamedSet) :
    (server.reading (s.defineMember member.text value caption).definitions).tuples (.named name) =
      (server.reading s.definitions).tuples (.named name) := by
  apply server.tuples_kept
  cases member <;> cases name <;> simp [Definition.name, CalculatedMember.text, NamedSet.text]

end Server

/-! ## A server with a table of facts -/

/-- The member of every level that a fact has a value at. The measure that it is a value of stands
for the hierarchy of the measures. -/
abbrev Fact := Level → String

/-- The fact at a tuple, with no name for the member of any other level. -/
def Fact.ofTuple (tuple : Tuple String) : Fact :=
  fun level => (tuple.lookup level).getD ""

/-- Facts, and for every level further members that no fact need be at. -/
structure Facts where
  facts : List Fact
  idle : Level → List String

namespace Facts

variable (facts : Facts)

/-- The members of a level, each once. -/
def members (level : Level) : List String :=
  (facts.facts.map (fun fact => fact level) ++ facts.idle level).eraseDups

/-- Some fact is at a tuple for a tuple of measures. -/
def hasData (tuple measure : Tuple String) : Bool :=
  facts.facts.any fun fact => (tuple ++ measure).all fun coordinate =>
    fact coordinate.1 == coordinate.2

section Reading

variable (names : NamedSet → List (Tuple String))

mutual

/-- The tuples of a set on a server that ignores sort keys and conditions, for given tuples of the
sets that have names. Functions that no query uses are read as empty. -/
def tuples : SetExpr → List (Tuple String)
  | .named name => names name
  | .children level => (facts.members level).map fun member => [(level, member)]
  | .members level => (facts.members level).map fun member => [(level, member)]
  | .measures first rest =>
    (first :: rest).map fun measure => [(⟨"[Measures]"⟩, measure.name)]
  | .crossJoin first rest => crossed (tuples first) (product rest)
  | .extract set levels => ((tuples set).map fun tuple => tuple.at levels).eraseDups
  | .filter set _ => tuples set
  | .order set _ _ => tuples set
  | .nonEmpty set basis => (tuples set).filter fun tuple => holdsAt tuple basis
  | .subset set (.whole start) (some (.whole count)) =>
    ((tuples set).drop start.toNat).take count.toNat
  | _ => []

/-- The product of the tuples of several sets. -/
def product : List SetExpr → List (Tuple String)
  | [] => [[]]
  | set :: rest => crossed (tuples set) (product rest)

/-- Some fact is at a tuple for some measure of a set, if there is one. -/
def holdsAt (tuple : Tuple String) : Option SetExpr → Bool
  | none => true
  | some basis => (tuples basis).any (facts.hasData tuple)

end

theorem product_eq_products (sets : List SetExpr) :
    facts.product names sets = products (sets.map (facts.tuples names)) := by
  induction sets with
  | nil => rw [product]; rfl
  | cons set rest ih => rw [product, ih]; rfl

/-- The reading of sets for given tuples of the sets that have names. -/
def reading : Reading String where
  tuples := facts.tuples names
  members := fun level _ => facts.members level
  tuples_all := by
    intro level includeAll
    cases includeAll with
    | false => simp [Level.all, tuples]
    | true => simp [Level.all, tuples]
  tuples_crossJoin := by
    intro first rest
    rw [tuples, product_eq_products]
    rfl
  tuples_order_perm := by
    intro set key direction
    rw [tuples]
  mem_tuples_extract_iff := by
    intro set levels tuple
    rw [tuples, List.mem_eraseDups, List.mem_map]
  nodup_tuples_extract := by
    intro set levels
    rw [tuples]
    exact nodup_eraseDups _

end Reading

/-- The tuples of the defined sets, each read behind the definitions before it. -/
def names (definitions : List Definition) : NamedSet → List (Tuple String) :=
  definitions.foldl (fun names definition other =>
    match definition with
    | .set name value => if name = other.text then facts.tuples names value else names other
    | .member _ _ _ => names other) fun _ => []

/-- The server that answers from facts. -/
def server : Server String where
  reading := fun definitions => facts.reading (facts.names definitions)
  members := fun level _ => facts.members level
  members_reading := fun _ => rfl
  tuples_defined := by
    intro definitions name value
    change facts.tuples _ _ = facts.tuples _ _
    rw [tuples, names, List.foldl_append]
    exact if_pos rfl
  tuples_kept := by
    intro definitions definition name hname
    change facts.tuples _ _ = facts.tuples _ _
    rw [tuples, tuples, names, List.foldl_append]
    cases definition with
    | set other value => exact if_neg hname
    | member other value caption => rfl

/-- The same server by the order of tuples. -/
def orderedServer : OrderedServer String where
  toServer := facts.server
  nodup_members := fun _ _ => nodup_eraseDups _
  tuples_extract := by
    intro definitions set levels
    change facts.tuples _ _ = _
    rw [tuples]
    rfl
  tuples_subset := by
    intro definitions set start count
    change facts.tuples _ (.subset set (.whole start.toNat) (some (.whole count.toNat))) = _
    rw [tuples]
    rfl
  tuples_filter_sublist := by
    intro definitions set condition
    change (facts.tuples _ _).Sublist _
    rw [tuples]
    exact .refl _
  length_tuples_measures := by
    intro definitions first rest
    change (facts.tuples _ _).length = _
    rw [tuples]
    simp

/-- The same server by what has data. -/
def dataServer : DataServer String where
  toServer := facts.server
  nodup_members := fun _ _ => nodup_eraseDups _
  hasData := facts.hasData
  tuples_nonEmpty := by
    intro definitions set basis
    change facts.tuples _ _ = _
    rw [tuples]
    simp only [holdsAt]
    rfl
  hasData_iff_completion := by
    intro before after measure level includeAll _ _
    simp only [hasData, List.any_eq_true, List.all_append, List.all_cons, Bool.and_eq_true]
    constructor
    · rintro ⟨fact, hfact, ⟨hbefore, hafter⟩, hmeasure⟩
      have hmember : fact level ∈ facts.members level :=
        List.mem_eraseDups.2 (List.mem_append_left _ (List.mem_map_of_mem hfact))
      refine ⟨fact level, hmember, fact, hfact, ?_⟩
      simp [hbefore, hafter, hmeasure]
    · rintro ⟨member, -, fact, hfact, ⟨hbefore, -, hafter⟩, hmeasure⟩
      exact ⟨fact, hfact, ⟨hbefore, hafter⟩, hmeasure⟩

end Facts

end CubeQuery.Mdx
