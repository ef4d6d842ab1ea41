import CubeQuery.Proofs.EqualValues
import CubeQuery.Report.Chart
import Mathlib.Data.List.SplitBy

set_option autoImplicit false

/-!
# The x axis of charts

The rows of a reply fall into groups of rows that follow one another and have the same x value. The
x axis has the values of all rows without repeats, and since equality of values is symmetric and
transitive, only the values of the groups count.

Main statements: the x axis has the distinct values of the groups (`distinctValues_axisValues`), and
all of them if rows of one x value are adjacent (`pairwise_groupValues`).
-/

namespace CubeQuery.Report

open Cellset (Tuple)

/-! ## Distinct values -/

/-- One step in the search for distinct values. -/
def noteValue (found : List Value) (x : Value) : List Value :=
  if found.any (·.same x) then found else found ++ [x]

theorem distinctValues_eq (values : List Value) :
    distinctValues values = values.foldl noteValue [] :=
  rfl

/-- Values that differ from all later ones. -/
def AreDistinct (values : List Value) : Prop :=
  values.Pairwise fun v w => v.same w = false

theorem noteValue_of_same {found : List Value} {v w : Value} (hv : v ∈ found)
    (h : v.same w = true) : noteValue found w = found :=
  if_pos (List.any_eq_true.2 ⟨v, hv, h⟩)

theorem noteValue_of_new {found : List Value} {w : Value} (h : ∀ v ∈ found, v.same w = false) :
    noteValue found w = found ++ [w] := by
  apply if_neg
  rw [List.any_eq_true]
  rintro ⟨v, hv, hsame⟩
  rw [h v hv] at hsame
  cases hsame

/-- A noted value is found, or the value is the same as one found before. -/
theorem noteValue_eq_or (found : List Value) (w : Value) :
    (noteValue found w = found ∧ ∃ v ∈ found, v.same w = true) ∨
      (noteValue found w = found ++ [w] ∧ ∀ v ∈ found, v.same w = false) := by
  by_cases h : ∃ v ∈ found, v.same w = true
  · obtain ⟨v, hv, hsame⟩ := h
    exact .inl ⟨noteValue_of_same hv hsame, v, hv, hsame⟩
  · simp only [not_exists, not_and, Bool.not_eq_true] at h
    exact .inr ⟨noteValue_of_new h, h⟩

theorem areDistinct_noteValue {found : List Value} (h : AreDistinct found) (w : Value) :
    AreDistinct (noteValue found w) := by
  rcases noteValue_eq_or found w with ⟨heq, -⟩ | ⟨heq, hnew⟩
  · rw [heq]
    exact h
  · rw [heq, AreDistinct, List.pairwise_append]
    refine ⟨h, List.pairwise_singleton _ _, ?_⟩
    intro v hv u hu
    rw [List.mem_singleton.1 hu]
    exact hnew v hv

theorem areDistinct_foldl_noteValue {found : List Value} (h : AreDistinct found)
    (values : List Value) : AreDistinct (values.foldl noteValue found) := by
  induction values generalizing found with
  | nil => exact h
  | cons w rest ih => exact ih (areDistinct_noteValue h w)

theorem areDistinct_distinctValues (values : List Value) : AreDistinct (distinctValues values) :=
  areDistinct_foldl_noteValue List.Pairwise.nil values

/-- What is found is extended by some of the values. -/
theorem exists_foldl_noteValue_eq (found values : List Value) :
    ∃ kept, values.foldl noteValue found = found ++ kept ∧ kept.Sublist values := by
  induction values generalizing found with
  | nil => exact ⟨[], (List.append_nil _).symm, List.Sublist.slnil⟩
  | cons w rest ih =>
    obtain ⟨kept, hkept, hsub⟩ := ih (noteValue found w)
    rw [List.foldl_cons, hkept]
    rcases noteValue_eq_or found w with ⟨heq, -⟩ | ⟨heq, -⟩
    · exact ⟨kept, by rw [heq], hsub.cons w⟩
    · exact ⟨w :: kept, by rw [heq, List.append_assoc, List.singleton_append], hsub.cons_cons w⟩

theorem distinctValues_sublist (values : List Value) : (distinctValues values).Sublist values := by
  obtain ⟨kept, hkept, hsub⟩ := exists_foldl_noteValue_eq [] values
  rw [distinctValues_eq, hkept]
  exact hsub

theorem foldl_noteValue_of_areDistinct {found values : List Value}
    (h : AreDistinct (found ++ values)) : values.foldl noteValue found = found ++ values := by
  induction values generalizing found with
  | nil => exact (List.append_nil _).symm
  | cons w rest ih =>
    have hnew : ∀ v ∈ found, v.same w = false := fun v hv =>
      (List.pairwise_append.1 h).2.2 v hv w List.mem_cons_self
    rw [List.append_cons] at h
    rw [List.foldl_cons, noteValue_of_new hnew, ih h, List.append_assoc, List.singleton_append]

/-- Distinct values are all kept, and only distinct values are. -/
theorem distinctValues_eq_self_iff (values : List Value) :
    distinctValues values = values ↔ AreDistinct values := by
  constructor
  · intro h
    rw [← h]
    exact areDistinct_distinctValues values
  · intro h
    have hall : AreDistinct ([] ++ values) := h
    exact foldl_noteValue_of_areDistinct hall

theorem length_distinctValues_eq_iff (values : List Value) :
    (distinctValues values).length = values.length ↔ AreDistinct values := by
  rw [← distinctValues_eq_self_iff]
  constructor
  · exact (distinctValues_sublist values).eq_of_length
  · exact congrArg List.length

/-- Values that are the same as one that was just noted leave what is found as it is. -/
theorem foldl_noteValue_of_same {v : Value} {rest : List Value}
    (h : ∀ w ∈ rest, v.same w = true) (found : List Value) :
    (v :: rest).foldl noteValue found = noteValue found v := by
  obtain ⟨u, hu, hsame⟩ : ∃ u ∈ noteValue found v, ∀ w ∈ rest, u.same w = true := by
    rcases noteValue_eq_or found v with ⟨heq, u, hu, hsame⟩ | ⟨heq, -⟩
    · rw [heq]
      exact ⟨u, hu, fun w hw => Value.same_trans hsame (h w hw)⟩
    · rw [heq]
      exact ⟨v, List.mem_append_right _ List.mem_cons_self, h⟩
  rw [List.foldl_cons]
  clear h
  induction rest with
  | nil => rfl
  | cons w rest ih =>
    rw [List.foldl_cons, noteValue_of_same hu (hsame w List.mem_cons_self)]
    exact ih fun w' hw' => hsame w' (List.mem_cons_of_mem _ hw')

/-! ## Runs of a relation -/

section Runs

variable {α : Type} {r : α → α → Bool}

/-- A change between two neighbours separates all before it from all behind it, if what is related
is adjacent. -/
theorem separated_of_change (hsymm : ∀ a b, r a b = true → r b a = true)
    (htrans : ∀ a b c, r a b = true → r b c = true → r a c = true) {before behind : List α}
    {b d : α} (hadjacent : ∀ x y z, [x, y, z].Sublist (before ++ b :: d :: behind) →
      r x z = true → r x y = true) (hbd : r b d = false) {a e : α} (ha : a ∈ before ++ [b])
    (he : e ∈ d :: behind) : r a e = false := by
  by_contra hae
  rw [Bool.not_eq_false] at hae
  have hsplit : before ++ b :: d :: behind = (before ++ [b]) ++ (d :: behind) := by simp
  have hlast : [b].Sublist (before ++ [b]) := List.sublist_append_right _ _
  -- What is related across the change is related to both of its sides.
  have hbe : r b e = true := by
    rcases List.mem_append.1 ha with ha | ha
    · have hab : r a b = true := by
        apply hadjacent a b e _ hae
        rw [hsplit]
        have hab := (List.singleton_sublist.2 ha).append (List.Sublist.refl [b])
        exact hab.append (List.singleton_sublist.2 he)
      exact htrans b a e (hsymm a b hab) hae
    · rw [← List.mem_singleton.1 ha]
      exact hae
  have hbd' : r b d = true := by
    rcases List.mem_cons.1 he with rfl | he
    · exact hbe
    · apply hadjacent b d e _ hbe
      rw [hsplit]
      exact hlast.append ((List.singleton_sublist.2 he).cons_cons d)
  rw [hbd] at hbd'
  cases hbd'

/-- The runs of a relation are separated from one another if what is related is adjacent. -/
theorem pairwise_splitBy (hsymm : ∀ a b, r a b = true → r b a = true)
    (htrans : ∀ a b c, r a b = true → r b c = true → r a c = true) {list : List α}
    (hadjacent : ∀ x y z, [x, y, z].Sublist list → r x z = true → r x y = true) :
    (list.splitBy r).Pairwise fun g h => ∀ a ∈ g, ∀ e ∈ h, r a e = false := by
  have hflat := List.flatten_splitBy r list
  have hne := List.nil_notMem_splitBy r list
  have hchange := List.isChain_getLast_head_splitBy r list
  generalize list.splitBy r = runs at hflat hne hchange
  induction runs generalizing list with
  | nil => exact List.Pairwise.nil
  | cons g rest ih =>
    subst hflat
    rw [List.flatten_cons] at hadjacent
    have hrest : ∀ x y z, [x, y, z].Sublist rest.flatten → r x z = true → r x y = true :=
      fun x y z h => hadjacent x y z (h.trans (List.sublist_append_right _ _))
    refine List.pairwise_cons.2 ⟨?_, ih hrest rfl (fun h => hne (List.mem_cons_of_mem _ h))
      hchange.tail⟩
    intro h hh a ha e he
    cases rest with
    | nil => cases hh
    | cons g' others =>
      obtain ⟨hg, hg', hlast⟩ := (List.isChain_cons_cons.1 hchange).1
      have hbehind : (g' :: others).flatten = g'.head hg' :: (g'.tail ++ others.flatten) := by
        rw [List.flatten_cons, ← List.cons_append, List.cons_head_tail]
      have hbefore : g.dropLast ++ [g.getLast hg] = g := List.dropLast_append_getLast hg
      have hwhole : g ++ (g' :: others).flatten =
          g.dropLast ++ g.getLast hg :: g'.head hg' :: (g'.tail ++ others.flatten) := by
        rw [hbehind, List.append_cons g.dropLast, hbefore]
      rw [hwhole] at hadjacent
      refine separated_of_change hsymm htrans hadjacent hlast ?_ ?_
      · rw [hbefore]
        exact ha
      · rw [← hbehind]
        exact List.mem_flatten.2 ⟨h, hh, he⟩

end Runs

/-! ## Groups of rows -/

/-- The x value of a row, that of its first member. -/
def xOf (tuple : Tuple) : Option Value :=
  tuple.members.head?.bind (·.value)

/-- The place of a row on the x axis, where a missing value is the empty text. -/
def axisValue (tuple : Tuple) : Value :=
  (xOf tuple).getD (.text "")

/-- Whether two numbered rows have the same x value. -/
def sameX (a b : Tuple × Nat) : Bool :=
  Value.sameOption (xOf a.1) (xOf b.1)

theorem sameX_symm (a b : Tuple × Nat) (h : sameX a b = true) : sameX b a = true :=
  Value.sameOption_symm h

theorem sameX_trans (a b d : Tuple × Nat) (hab : sameX a b = true) (hbd : sameX b d = true) :
    sameX a d = true :=
  Value.sameOption_trans hab hbd

/-- Numbered rows, in groups of rows that follow one another and have the same x value. -/
def xGroups (tuples : List Tuple) : List (List (Tuple × Nat)) :=
  tuples.zipIdx.splitBy sameX

/-- The place of a group on the x axis, that of its first row. -/
def groupValue (group : List (Tuple × Nat)) : Value :=
  (group.head?.map fun row => axisValue row.1).getD (.text "")

theorem flatten_xGroups (tuples : List Tuple) : (xGroups tuples).flatten = tuples.zipIdx :=
  List.flatten_splitBy _ _

theorem xGroups_eq_nil_iff (tuples : List Tuple) : xGroups tuples = [] ↔ tuples = [] := by
  rw [xGroups, List.splitBy_eq_nil, List.zipIdx_eq_nil_iff]

theorem ne_nil_of_mem_xGroups {tuples : List Tuple} {group : List (Tuple × Nat)}
    (h : group ∈ xGroups tuples) : group ≠ [] :=
  List.ne_nil_of_mem_splitBy h

theorem sublist_of_mem_xGroups {tuples : List Tuple} {group : List (Tuple × Nat)}
    (h : group ∈ xGroups tuples) : group.Sublist tuples.zipIdx := by
  rw [← flatten_xGroups]
  exact List.sublist_flatten_of_mem h

/-- The rows of a group have the same x value. -/
theorem pairwise_sameX_of_mem_xGroups {tuples : List Tuple} {group : List (Tuple × Nat)}
    (h : group ∈ xGroups tuples) : group.Pairwise fun a b => sameX a b = true := by
  have htrans : IsTrans (Tuple × Nat) fun a b => sameX a b = true := ⟨sameX_trans⟩
  exact List.isChain_iff_pairwise.1 (List.isChain_of_mem_splitBy h)

theorem same_axisValue {a b : Tuple} (h : Value.sameOption (xOf a) (xOf b) = true) :
    (axisValue a).same (axisValue b) = true := by
  rw [axisValue, axisValue]
  cases ha : xOf a with
  | none =>
    cases hb : xOf b with
    | none => rfl
    | some w =>
      rw [ha, hb] at h
      cases h
  | some v =>
    cases hb : xOf b with
    | none =>
      rw [ha, hb] at h
      cases h
    | some w =>
      rw [ha, hb] at h
      exact h

/-- Rows with the same place on the x axis have the same x value if none is the empty text. -/
theorem sameOption_of_same_axisValue {a b : Tuple} (ha : xOf a ≠ some (.text ""))
    (hb : xOf b ≠ some (.text "")) (h : (axisValue a).same (axisValue b) = true) :
    Value.sameOption (xOf a) (xOf b) = true := by
  rw [axisValue, axisValue] at h
  cases hxa : xOf a with
  | none =>
    cases hxb : xOf b with
    | none => rfl
    | some w =>
      rw [hxa, hxb] at h
      cases w with
      | number x => cases h
      | text s => exact absurd (hxb.trans (congrArg _ (congrArg _ (beq_iff_eq.1 h).symm))) hb
  | some v =>
    cases hxb : xOf b with
    | none =>
      rw [hxa, hxb] at h
      cases v with
      | number x => cases h
      | text s => exact absurd (hxa.trans (congrArg _ (congrArg _ (beq_iff_eq.1 h)))) ha
    | some w =>
      rw [hxa, hxb] at h
      exact h

/-- **The x axis has the distinct values of the groups.** -/
theorem distinctValues_axisValues (tuples : List Tuple) :
    distinctValues (tuples.map axisValue) =
      distinctValues ((xGroups tuples).map groupValue) := by
  have hvalues : tuples.map axisValue =
      ((xGroups tuples).map fun group => group.map fun row => axisValue row.1).flatten := by
    rw [← List.map_flatten, flatten_xGroups]
    calc tuples.map axisValue = (tuples.zipIdx.map Prod.fst).map axisValue := by
          rw [List.zipIdx_map_fst]
      _ = tuples.zipIdx.map fun row => axisValue row.1 := List.map_map
  have hgroup : ∀ group ∈ xGroups tuples, ∀ found,
      (group.map fun row => axisValue row.1).foldl noteValue found =
        noteValue found (groupValue group) := by
    intro group hmem found
    have hsame := pairwise_sameX_of_mem_xGroups hmem
    cases group with
    | nil => exact absurd rfl (ne_nil_of_mem_xGroups hmem)
    | cons row rest =>
      apply foldl_noteValue_of_same
      intro w hw
      obtain ⟨other, hother, rfl⟩ := List.mem_map.1 hw
      exact same_axisValue ((List.pairwise_cons.1 hsame).1 other hother)
  rw [distinctValues_eq, distinctValues_eq, hvalues, List.foldl_flatten, List.foldl_map,
    List.foldl_map]
  exact List.foldl_ext _ _ _ fun found group hmem => hgroup group hmem found

/-- Groups differ in their places if rows of one x value are adjacent and none is the empty text. -/
theorem pairwise_groupValues {tuples : List Tuple}
    (hadjacent : ∀ a b d, [a, b, d].Sublist tuples →
      Value.sameOption (xOf a) (xOf d) = true → Value.sameOption (xOf a) (xOf b) = true)
    (hempty : ∀ tuple ∈ tuples, xOf tuple ≠ some (.text "")) :
    AreDistinct ((xGroups tuples).map groupValue) := by
  have hrows : ∀ x y z, [x, y, z].Sublist tuples.zipIdx → sameX x z = true →
      sameX x y = true := by
    intro x y z hsub
    have hmap := hsub.map Prod.fst
    rw [List.zipIdx_map_fst] at hmap
    exact hadjacent _ _ _ hmap
  rw [AreDistinct, List.pairwise_map]
  refine (pairwise_splitBy sameX_symm sameX_trans hrows).imp_of_mem ?_
  intro g h hg hh hseparated
  have hmem : ∀ {group : List (Tuple × Nat)} {row : Tuple × Nat}, group ∈ xGroups tuples →
      row ∈ group → row.1 ∈ tuples := fun hgroup hrow =>
    List.fst_mem_of_mem_zipIdx ((sublist_of_mem_xGroups hgroup).subset hrow)
  cases g with
  | nil => exact absurd rfl (ne_nil_of_mem_xGroups hg)
  | cons a others =>
    cases h with
    | nil => exact absurd rfl (ne_nil_of_mem_xGroups hh)
    | cons e others' =>
      have hdiffer := hseparated a List.mem_cons_self e List.mem_cons_self
      by_contra hsame
      rw [Bool.not_eq_false] at hsame
      rw [sameX, sameOption_of_same_axisValue (hempty _ (hmem hg List.mem_cons_self))
        (hempty _ (hmem hh List.mem_cons_self)) hsame] at hdiffer
      cases hdiffer

end CubeQuery.Report
