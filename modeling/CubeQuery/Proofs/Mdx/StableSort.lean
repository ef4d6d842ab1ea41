import Mathlib.Data.List.Perm.Basic

set_option autoImplicit false

/-!
# Stable sorts

A list is sorted stably by an order if it is in order and elements that tie are where they were
among each other. Orders are total and transitive, but different elements may tie.

To sort by several orders, the first of which weighs most, sort by the last one first: each later
sort leaves the order among its ties as it finds it. The ties of one order are the lists in which
the next one shows, and so the whole argument is about ties.

Main statements: there is only one stable sort of a list (`IsStableSort.unique`), and sorting a list
that is sorted by less weighty orders by one more sorts it by all of them
(`IsStableSort.lexicographic_cons`).
-/

namespace CubeQuery.Mdx

variable {α : Type}

/-! ## Orders -/

/-- An order in which all elements can be compared. Different ones may tie. -/
structure IsTotalPreorder (le : α → α → Bool) : Prop where
  trans : ∀ a b c, le a b = true → le b c = true → le a c = true
  total : ∀ a b, (le a b || le b a) = true

/-- Neither of two elements comes before the other. -/
def tied (le : α → α → Bool) (a b : α) : Bool :=
  le a b && le b a

/-- The order by several orders, of which each one decides between the ties of those before it. -/
def lexicographic : List (α → α → Bool) → α → α → Bool
  | [], _, _ => true
  | le :: rest, a, b => le a b && (!le b a || lexicographic rest a b)

theorem IsTotalPreorder.refl {le : α → α → Bool} (h : IsTotalPreorder le) (a : α) :
    le a a = true := by
  simpa using h.total a a

theorem lexicographic_cons_iff (le : α → α → Bool) (rest : List (α → α → Bool)) (a b : α) :
    lexicographic (le :: rest) a b = true ↔
      le a b = true ∧ (le b a = true → lexicographic rest a b = true) := by
  rw [lexicographic, Bool.and_eq_true]
  cases le b a <;> simp

/-- Elements tie by several orders if they tie by each of them. -/
theorem tied_lexicographic_cons (le : α → α → Bool) (rest : List (α → α → Bool)) (a b : α) :
    tied (lexicographic (le :: rest)) a b = (tied le a b && tied (lexicographic rest) a b) := by
  rw [tied, tied, tied, lexicographic, lexicographic]
  cases le a b <;> cases le b a <;> simp

/-- The order by several orders is one. -/
theorem isTotalPreorder_lexicographic {orders : List (α → α → Bool)}
    (h : ∀ le ∈ orders, IsTotalPreorder le) : IsTotalPreorder (lexicographic orders) := by
  induction orders with
  | nil => exact ⟨fun _ _ _ _ _ => rfl, fun _ _ => rfl⟩
  | cons le rest ih =>
    rw [List.forall_mem_cons] at h
    have hrest := ih h.2
    refine ⟨fun a b c hab hbc => ?_, fun a b => ?_⟩
    · rw [lexicographic_cons_iff] at hab hbc ⊢
      refine ⟨h.1.trans a b c hab.1 hbc.1, fun hca => ?_⟩
      -- If the outer two tie, the middle one ties with both.
      have hba := h.1.trans b c a hbc.1 hca
      have hcb := h.1.trans c a b hca hab.1
      exact hrest.trans a b c (hab.2 hba) (hbc.2 hcb)
    · have hle := h.1.total a b
      have hlex := hrest.total a b
      rw [Bool.or_eq_true] at hle hlex ⊢
      rw [lexicographic_cons_iff, lexicographic_cons_iff]
      by_cases hab : le a b = true
      · by_cases hba : le b a = true
        · rcases hlex with h' | h'
          · exact .inl ⟨hab, fun _ => h'⟩
          · exact .inr ⟨hba, fun _ => h'⟩
        · exact .inl ⟨hab, fun h' => absurd h' hba⟩
      · exact .inr ⟨hle.resolve_left hab, fun h' => absurd h' hab⟩

/-! ## Sorts -/

/-- A list in order, in which elements that tie follow each other as they did before. -/
structure IsStableSort (le : α → α → Bool) (list sorted : List α) : Prop where
  perm : sorted.Perm list
  inOrder : sorted.Pairwise fun a b => le a b = true
  ties : ∀ a, sorted.filter (tied le a) = list.filter (tied le a)

/-- A list is sorted by no order as it is. -/
theorem isStableSort_nil (list : List α) : IsStableSort (lexicographic []) list list where
  perm := .refl list
  inOrder := List.pairwise_of_forall fun _ _ => rfl
  ties := fun _ => rfl

/-- Merge sort is a stable sort. -/
theorem isStableSort_mergeSort {le : α → α → Bool} (h : IsTotalPreorder le) (list : List α) :
    IsStableSort le list (list.mergeSort le) where
  perm := List.mergeSort_perm list le
  inOrder := List.pairwise_mergeSort h.trans h.total list
  ties := by
    intro a
    -- The ties of an element are in order in any order, so that sorting does not take them apart.
    have hties : (list.filter (tied le a)).Pairwise fun b c => le b c = true := by
      apply List.pairwise_of_forall_mem_list
      intro b hb c hc
      rw [List.mem_filter, tied, Bool.and_eq_true] at hb hc
      exact h.trans b a c hb.2.2 hc.2.1
    have hsub := List.sublist_mergeSort h.trans h.total hties List.filter_sublist
    have hfilter := hsub.filter (tied le a)
    rw [List.filter_filter] at hfilter
    simp only [Bool.and_self] at hfilter
    exact (hfilter.eq_of_length ((List.mergeSort_perm list le).filter _).length_eq.symm).symm

theorem tied_self {le : α → α → Bool} (h : IsTotalPreorder le) (a : α) : tied le a a = true := by
  rw [tied, h.refl a]
  rfl

theorem mem_of_ties {le : α → α → Bool} (h : IsTotalPreorder le) {first second : List α}
    (hties : ∀ a, first.filter (tied le a) = second.filter (tied le a)) {a : α} (ha : a ∈ first) :
    a ∈ second := by
  have hmem : a ∈ first.filter (tied le a) := List.mem_filter.2 ⟨ha, tied_self h a⟩
  rw [hties a] at hmem
  exact (List.mem_filter.1 hmem).1

/-- Lists in order are equal if the ties of every element are. -/
theorem eq_of_inOrder_of_ties {le : α → α → Bool} (h : IsTotalPreorder le) {first second : List α}
    (hfirst : first.Pairwise fun a b => le a b = true)
    (hsecond : second.Pairwise fun a b => le a b = true)
    (hties : ∀ a, first.filter (tied le a) = second.filter (tied le a)) : first = second := by
  have hback := fun a => (hties a).symm
  induction first generalizing second with
  | nil =>
    cases second with
    | nil => rfl
    | cons b others => exact absurd (mem_of_ties h hback List.mem_cons_self) nofun
  | cons a rest ih =>
    cases second with
    | nil => exact absurd (mem_of_ties h hties List.mem_cons_self) nofun
    | cons b others =>
      rw [List.pairwise_cons] at hfirst hsecond
      -- Each of the two heads comes before the other, so they tie, and each is first of its ties.
      have hab : le a b = true := by
        rcases List.mem_cons.1 (mem_of_ties h hback List.mem_cons_self) with rfl | hb
        · exact h.refl b
        · exact hfirst.1 b hb
      have hba : le b a = true := by
        rcases List.mem_cons.1 (mem_of_ties h hties List.mem_cons_self) with rfl | ha
        · exact h.refl a
        · exact hsecond.1 a ha
      have htied : tied le a b = true := by
        rw [tied, hab, hba]
        rfl
      have hhead := hties a
      rw [List.filter_cons_of_pos (tied_self h a), List.filter_cons_of_pos htied] at hhead
      obtain ⟨rfl, -⟩ := List.cons.inj hhead
      have hrest : ∀ c, rest.filter (tied le c) = others.filter (tied le c) := by
        intro c
        have hc := hties c
        rw [List.filter_cons, List.filter_cons] at hc
        split at hc
        · exact (List.cons.inj hc).2
        · exact hc
      rw [ih hfirst.2 hsecond.2 hrest fun c => (hrest c).symm]

namespace IsStableSort

variable {le : α → α → Bool} {list sorted : List α}

/-- There is only one stable sort of a list. -/
theorem unique {other : List α} (h : IsStableSort le list sorted)
    (hother : IsStableSort le list other) (hle : IsTotalPreorder le) : sorted = other :=
  eq_of_inOrder_of_ties hle h.inOrder hother.inOrder fun a => (h.ties a).trans (hother.ties a).symm

theorem eq_mergeSort (h : IsStableSort le list sorted) (hle : IsTotalPreorder le) :
    sorted = list.mergeSort le :=
  h.unique (isStableSort_mergeSort hle list) hle

/-- A list that is sorted by some orders is sorted by one more order of higher weight by sorting it
by that order. -/
theorem lexicographic_cons {orders : List (α → α → Bool)} {between : List α}
    (hrest : IsStableSort (lexicographic orders) list between)
    (hfirst : IsStableSort le between sorted) (hle : IsTotalPreorder le) :
    IsStableSort (lexicographic (le :: orders)) list sorted where
  perm := hfirst.perm.trans hrest.perm
  inOrder := by
    rw [List.pairwise_iff_forall_sublist]
    intro a b hsub
    rw [lexicographic_cons_iff]
    have hab := List.pairwise_iff_forall_sublist.1 hfirst.inOrder hsub
    refine ⟨hab, fun hba => ?_⟩
    -- Two elements that tie by the last order stand as they stood before it was applied.
    have hpair : [a, b].filter (tied le a) = [a, b] := by
      simp [tied, hab, hba, hle.refl a]
    have hbefore := hsub.filter (tied le a)
    rw [hpair, hfirst.ties a] at hbefore
    exact List.pairwise_iff_forall_sublist.1 hrest.inOrder (hbefore.trans List.filter_sublist)
  ties := by
    intro a
    have hsplit : ∀ others : List α, others.filter (tied (lexicographic (le :: orders)) a) =
        (others.filter (tied le a)).filter (tied (lexicographic orders) a) := by
      intro others
      rw [List.filter_filter]
      apply List.filter_congr
      intro b _
      rw [tied_lexicographic_cons, Bool.and_comm]
    calc sorted.filter (tied (lexicographic (le :: orders)) a)
        = (between.filter (tied le a)).filter (tied (lexicographic orders) a) := by
          rw [hsplit, hfirst.ties a]
      _ = (between.filter (tied (lexicographic orders) a)).filter (tied le a) :=
          List.filter_comm _ _ _
      _ = (list.filter (tied (lexicographic orders) a)).filter (tied le a) := by
          rw [hrest.ties a]
      _ = list.filter (tied (lexicographic (le :: orders)) a) := by
          rw [List.filter_comm, hsplit]

end IsStableSort

end CubeQuery.Mdx
