import CubeQuery.Xml.Node

set_option autoImplicit false

/-!
# Addresses in documents

A node below another is reached by going to the child at a place, to a child of that at a place, and
so on, and the list of these places is its address. A node stands before the nodes below it, and
what is below a child stands before what is below a later one, so document order is the
lexicographic order of addresses.

Main statements: what is collected from the nodes of a document is listed in document order and
nothing is left out (`lists_filterMap_descendants`), and it is the only list that does so
(`Lists.unique`).
-/

namespace CubeQuery.Xml.Node

/-! ## Names and first children -/

/-- A node has one resolved name at most. -/
theorem eq_of_hasName {node : Node} {name other : Name} (hname : node.hasName name = true)
    (hother : node.hasName other = true) : name = other := by
  cases node with
  | element own attributes children =>
    simp only [hasName, beq_iff_eq] at hname hother
    rw [← hname, ← hother]
  | text content => cases hname
  | comment content => cases hname
  | instruction target content => cases hname

/-- Whether a node is the first child of another that meets a condition. -/
def IsFirstChild (parent : Node) (p : Node → Bool) (child : Node) : Prop :=
  ∃ before after, parent.children = before ++ child :: after ∧ p child = true ∧
    ∀ other ∈ before, p other = false

theorem find?_children_eq_some_iff {parent child : Node} {p : Node → Bool} :
    parent.children.find? p = some child ↔ parent.IsFirstChild p child := by
  rw [List.find?_eq_some_iff_append]
  constructor
  · rintro ⟨hchild, before, after, hchildren, hbefore⟩
    exact ⟨before, after, hchildren, hchild, by simpa using hbefore⟩
  · rintro ⟨before, after, hchildren, hchild, hbefore⟩
    exact ⟨hchild, before, after, hchildren, by simpa using hbefore⟩

theorem child?_eq_some_iff {parent child : Node} {name : Name} :
    parent.child? name = some child ↔ parent.IsFirstChild (·.hasName name) child :=
  find?_children_eq_some_iff

theorem childCalled?_eq_some_iff {parent child : Node} {localName : String} :
    parent.childCalled? localName = some child ↔ parent.IsFirstChild (·.isCalled localName) child :=
  find?_children_eq_some_iff

/-! ## Addresses -/

/-- The node at an address: the one reached by going to the child at each of its places in turn. -/
def at? : Node → List Nat → Option Node
  | node, [] => some node
  | node, place :: address => node.children[place]?.bind fun child => child.at? address

mutual

/-- A node and all nodes below it with their addresses, in document order. -/
def located : Node → List (List Nat × Node)
  | element name attributes children =>
    ([], element name attributes children) :: locatedFrom 0 children
  | text content => [([], text content)]
  | comment content => [([], comment content)]
  | instruction target content => [([], instruction target content)]

/-- Several nodes, the first of them at a place, and all nodes below them with their addresses, in
document order. -/
def locatedFrom (place : Nat) : List Node → List (List Nat × Node)
  | [] => []
  | node :: rest =>
    node.located.map (fun entry => (place :: entry.1, entry.2)) ++ locatedFrom (place + 1) rest

end

mutual

theorem map_snd_located (node : Node) : node.located.map Prod.snd = node.descendants := by
  cases node with
  | element name attributes children =>
    rw [located, descendants, List.map_cons, map_snd_locatedFrom 0 children]
  | text content => rfl
  | comment content => rfl
  | instruction target content => rfl

theorem map_snd_locatedFrom (place : Nat) (nodes : List Node) :
    (locatedFrom place nodes).map Prod.snd = descendantsOf nodes := by
  cases nodes with
  | nil => rfl
  | cons node rest =>
    rw [locatedFrom, descendantsOf, List.map_append, List.map_map,
      map_snd_locatedFrom (place + 1) rest, ← map_snd_located node]
    rfl

end

mutual

theorem mem_located_iff {node : Node} {address : List Nat} {found : Node} :
    (address, found) ∈ node.located ↔ node.at? address = some found := by
  cases node with
  | element name attributes children =>
    rw [located, List.mem_cons, mem_locatedFrom_iff]
    cases address with
    | nil => simp [at?, eq_comm]
    | cons place rest =>
      constructor
      · rintro (h | ⟨i, rest', heq, hfound⟩)
        · cases h
        · obtain ⟨rfl, rfl⟩ : place = i ∧ rest = rest' := by simpa using heq
          exact hfound
      · intro hfound
        exact .inr ⟨place, rest, by rw [Nat.zero_add], hfound⟩
  | text content => cases address <;> simp [located, at?, Node.children, eq_comm]
  | comment content => cases address <;> simp [located, at?, Node.children, eq_comm]
  | instruction target content => cases address <;> simp [located, at?, Node.children, eq_comm]

theorem mem_locatedFrom_iff {place : Nat} {nodes : List Node} {address : List Nat}
    {found : Node} :
    (address, found) ∈ locatedFrom place nodes ↔
      ∃ i rest, address = (place + i) :: rest ∧
        (nodes[i]?.bind fun node => node.at? rest) = some found := by
  cases nodes with
  | nil => simp [locatedFrom]
  | cons node nodes =>
    rw [locatedFrom, List.mem_append, mem_locatedFrom_iff, List.mem_map]
    constructor
    · rintro (⟨⟨rest, found⟩, hmem, heq⟩ | ⟨i, rest, rfl, hfound⟩)
      · cases heq
        exact ⟨0, rest, rfl, mem_located_iff.1 hmem⟩
      · exact ⟨i + 1, rest, by rw [Nat.add_assoc, Nat.add_comm 1], hfound⟩
    · rintro ⟨i, rest, rfl, hfound⟩
      cases i with
      | zero => exact .inl ⟨(rest, found), mem_located_iff.2 hfound, rfl⟩
      | succ i => exact .inr ⟨i, rest, by rw [Nat.add_assoc, Nat.add_comm 1], hfound⟩

end

mutual

theorem pairwise_located (node : Node) :
    node.located.Pairwise fun entry later => entry.1 < later.1 := by
  cases node with
  | element name attributes children =>
    rw [located, List.pairwise_cons]
    refine ⟨?_, pairwise_locatedFrom 0 children⟩
    rintro ⟨address, found⟩ hmem
    obtain ⟨i, rest, rfl, -⟩ := mem_locatedFrom_iff.1 hmem
    exact List.nil_lt_cons _ _
  | text content => exact List.pairwise_singleton _ _
  | comment content => exact List.pairwise_singleton _ _
  | instruction target content => exact List.pairwise_singleton _ _

theorem pairwise_locatedFrom (place : Nat) (nodes : List Node) :
    (locatedFrom place nodes).Pairwise fun entry later => entry.1 < later.1 := by
  cases nodes with
  | nil => exact .nil
  | cons node nodes =>
    rw [locatedFrom, List.pairwise_append]
    refine ⟨?_, pairwise_locatedFrom (place + 1) nodes, ?_⟩
    · rw [List.pairwise_map]
      refine (pairwise_located node).imp fun {entry later} hlt => ?_
      exact List.cons_lt_cons_iff.2 (.inr ⟨rfl, hlt⟩)
    · -- What is below a node has its place in front, and later nodes have later places.
      intro entry hentry later hlater
      obtain ⟨inner, -, rfl⟩ := List.mem_map.1 hentry
      obtain ⟨i, rest, heq, -⟩ := mem_locatedFrom_iff.1 hlater
      rw [heq]
      exact List.cons_lt_cons_iff.2 (.inl (by omega))

end

/-! ## What is listed in document order -/

section

variable {α : Type}

/-- Whether values are those that nodes below a node have, in document order. -/
def Lists (node : Node) (has : Node → α → Prop) (values : List α) : Prop :=
  ∃ entries : List (List Nat × α),
    (entries.Pairwise fun entry later => entry.1 < later.1) ∧
    (∀ address value, (address, value) ∈ entries ↔
      address ≠ [] ∧ ∃ found, node.at? address = some found ∧ has found value) ∧
    entries.map Prod.snd = values

/-- There is one list of the values that nodes below a node have. -/
theorem Lists.unique {node : Node} {has : Node → α → Prop} {values others : List α}
    (h : node.Lists has values) (hothers : node.Lists has others) : values = others := by
  obtain ⟨entries, hordered, hentries, rfl⟩ := h
  obtain ⟨entries', hordered', hentries', rfl⟩ := hothers
  -- Two lists in the same strict order that hold the same entries are the same list.
  have hirrefl : ∀ entry later : List Nat × α, entry.1 < later.1 → entry ≠ later := by
    rintro entry later hlt rfl
    exact List.lt_irrefl _ hlt
  have hperm : entries.Perm entries' := by
    rw [List.perm_ext_iff_of_nodup (hordered.imp (hirrefl _ _)) (hordered'.imp (hirrefl _ _))]
    rintro ⟨address, value⟩
    rw [hentries, hentries']
  rw [hperm.eq_of_pairwise (fun entry later _ _ hlt hgt => ?_) hordered hordered']
  exact absurd (List.lt_trans hlt hgt) (List.lt_irrefl _)

/-- What is collected from a node and the nodes below it is listed in document order, where the node
itself has nothing. -/
theorem lists_filterMap_descendants {node : Node} {value? : Node → Option α}
    (h : value? node = none) :
    node.Lists (fun found value => value? found = some value)
      (node.descendants.filterMap value?) := by
  refine ⟨node.located.filterMap fun entry => (value? entry.2).map (entry.1, ·), ?_, ?_, ?_⟩
  · rw [List.pairwise_filterMap]
    refine (pairwise_located node).imp fun {entry later} hlt => ?_
    intro first hfirst second hsecond
    obtain ⟨value, -, rfl⟩ := Option.map_eq_some_iff.1 hfirst
    obtain ⟨value', -, rfl⟩ := Option.map_eq_some_iff.1 hsecond
    exact hlt
  · intro address value
    rw [List.mem_filterMap]
    constructor
    · rintro ⟨⟨address', found⟩, hmem, heq⟩
      obtain ⟨value', hvalue, heq⟩ := Option.map_eq_some_iff.1 heq
      cases heq
      have hfound := mem_located_iff.1 hmem
      refine ⟨?_, found, hfound, hvalue⟩
      rintro rfl
      rw [at?] at hfound
      cases hfound
      rw [h] at hvalue
      cases hvalue
    · rintro ⟨-, found, hfound, hvalue⟩
      refine ⟨(address, found), mem_located_iff.2 hfound, ?_⟩
      rw [hvalue]
      rfl
  · have hsnd : (fun entry : List Nat × Node =>
        ((value? entry.2).map (entry.1, ·)).map Prod.snd) = value? ∘ Prod.snd := by
      funext entry
      rw [Option.map_map]
      exact Option.map_id'
    rw [List.map_filterMap, hsnd, ← map_snd_located, List.filterMap_map]

end

end CubeQuery.Xml.Node
