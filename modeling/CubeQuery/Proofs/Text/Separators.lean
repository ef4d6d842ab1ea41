import Mathlib.Data.List.Basic
import Mathlib.Data.List.Infix

set_option autoImplicit false

/-!
# Separators

Lists of texts that are joined by a separator, and when the list can be told from what it is joined
to. That no text holds the separator is not enough: the separator may begin inside a text and end
inside the separator behind it. A kind of texts is delimited by a separator if this cannot happen
(`Delimits`); texts without the separator are so if no proper end of the separator is a beginning of
it (`delimits_of_unbordered`), as when its last character stands nowhere else in it
(`unbordered_concat`), and texts without its first two characters are so always
(`delimits_of_pair`).

Main statements: joining is injective on lists of delimited texts (`Delimits.intercalate_inj`), and
every text is joined of texts that do not hold the separator (`exists_pieces`).
-/

namespace CubeQuery.Text

variable {α : Type} {sep : List α} {P : List α → Prop}

/-- A text of a kind does not hold the separator, nor does the separator begin inside such a text
where it also begins behind it. -/
structure Delimits (sep : List α) (P : List α → Prop) : Prop where
  not_of_append : ∀ before after, ¬ P (before ++ (sep ++ after))
  eq_nil : ∀ {before extra rest rest' : List α}, P (before ++ extra) →
    sep ++ rest = extra ++ (sep ++ rest') → extra = []

namespace Delimits

/-- Two texts before a separator are the same if what they begin is the same. -/
theorem append_inj (h : Delimits sep P) {x y rest rest' : List α} (hx : P x) (hy : P y)
    (heq : x ++ (sep ++ rest) = y ++ (sep ++ rest')) : x = y ∧ rest = rest' := by
  have hsame : x = y := by
    obtain ⟨extra, rfl, hextra⟩ | ⟨extra, rfl, hextra⟩ := List.append_eq_append_iff.1 heq
    · rw [h.eq_nil hy hextra, List.append_nil]
    · rw [h.eq_nil hx hextra, List.append_nil]
  subst hsame
  exact ⟨rfl, List.append_cancel_left (List.append_cancel_left heq)⟩

/-- A list of delimited texts is read off what it is joined to. -/
theorem intercalate_inj (h : Delimits sep P) {xs ys : List (List α)} (hxs : xs ≠ []) (hys : ys ≠ [])
    (hpxs : ∀ x ∈ xs, P x) (hpys : ∀ y ∈ ys, P y)
    (heq : sep.intercalate xs = sep.intercalate ys) : xs = ys := by
  induction xs generalizing ys with
  | nil => exact absurd rfl hxs
  | cons x xs ih =>
    cases ys with
    | nil => exact absurd rfl hys
    | cons y ys =>
      have hx := hpxs x List.mem_cons_self
      have hy := hpys y List.mem_cons_self
      cases xs with
      | nil =>
        cases ys with
        | nil =>
          rw [List.intercalate_singleton, List.intercalate_singleton] at heq
          rw [heq]
        | cons y' ys =>
          -- The one text would hold the separator behind the first of several.
          rw [List.intercalate_singleton, List.intercalate_cons_cons, List.append_assoc] at heq
          exact absurd (heq ▸ hx) (h.not_of_append _ _)
      | cons x' xs =>
        cases ys with
        | nil =>
          rw [List.intercalate_singleton, List.intercalate_cons_cons, List.append_assoc] at heq
          exact absurd (heq.symm ▸ hy) (h.not_of_append _ _)
        | cons y' ys =>
          rw [List.intercalate_cons_cons, List.intercalate_cons_cons, List.append_assoc,
            List.append_assoc] at heq
          obtain ⟨rfl, hrest⟩ := h.append_inj hx hy heq
          rw [ih (List.cons_ne_nil _ _) (List.cons_ne_nil _ _)
            (fun z hz => hpxs z (List.mem_cons_of_mem _ hz))
            (fun z hz => hpys z (List.mem_cons_of_mem _ hz)) hrest]

/-- Joining texts is injective as joining their characters is. -/
theorem string_intercalate_inj {sep : String} {P : List Char → Prop} (h : Delimits sep.toList P)
    {xs ys : List String} (hxs : xs ≠ []) (hys : ys ≠ []) (hpxs : ∀ x ∈ xs, P x.toList)
    (hpys : ∀ y ∈ ys, P y.toList) (heq : sep.intercalate xs = sep.intercalate ys) : xs = ys := by
  have hchars := congrArg String.toList heq
  rw [String.toList_intercalate, String.toList_intercalate] at hchars
  have hmap := h.intercalate_inj (by simpa using hxs) (by simpa using hys)
    (by simpa using hpxs) (by simpa using hpys) hchars
  exact List.map_injective_iff.2 (fun _ _ => String.toList_injective) hmap

end Delimits

/-! ## Separators that delimit -/

/-- No end of a list is a beginning of it, except for the whole list and the empty one. -/
def Unbordered (sep : List α) : Prop :=
  ∀ front back, front ++ back = sep → back <+: sep → front = [] ∨ back = []

theorem delimits_of_unbordered (h : Unbordered sep) : Delimits sep fun x => ¬ sep <:+: x where
  not_of_append before after hnot :=
    hnot (List.infix_append' before sep after)
  eq_nil {before extra rest rest'} hnot heq := by
    obtain ⟨back, rfl, -⟩ | ⟨back, rfl, hback⟩ := List.append_eq_append_iff.1 heq
    · exact absurd (List.infix_append' before sep back) hnot
    · have hwhole : back <+: (extra ++ back) ++ rest' := ⟨rest, hback.symm⟩
      have hprefix : back <+: extra ++ back :=
        List.prefix_of_prefix_length_le hwhole (List.prefix_append _ _) (by simp)
      obtain hnil | rfl := h extra back rfl hprefix
      · exact hnil
      · rw [List.append_nil] at hnot
        exact absurd (List.suffix_append before extra).isInfix hnot

/-- Texts without the first two characters of a separator are delimited by it. -/
theorem delimits_of_pair {a b : α} (hab : a ≠ b) (tail : List α) :
    Delimits (a :: b :: tail) fun x => ¬ [a, b] <:+: x where
  not_of_append before after hnot :=
    hnot ⟨before, tail ++ after, by simp⟩
  eq_nil {before extra rest rest'} hnot heq := by
    rcases extra with _ | ⟨c, _ | ⟨d, extra⟩⟩
    · rfl
    · -- The second character would be the first one of the separator behind the text.
      exact absurd (by simp_all) hab
    · obtain ⟨rfl, rfl⟩ : a = c ∧ b = d := by simp_all
      exact absurd ⟨before, extra, by simp⟩ hnot

/-- A separator that begins with two characters, and does not hold them again nor end in the first
of them, is unbordered. -/
theorem unbordered_of_pair {a b : α} {tail : List α} (hab : a ≠ b)
    (hlast : (a :: b :: tail).getLast? ≠ some a) (htail : ¬ [a, b] <:+: tail) :
    Unbordered (a :: b :: tail) := by
  intro front back hcut hback
  rcases front with _ | ⟨c, front⟩
  · exact .inl rfl
  rcases back with _ | ⟨x, _ | ⟨y, back⟩⟩
  · exact .inr rfl
  · obtain ⟨rfl, -⟩ := List.cons_prefix_cons.1 hback
    rw [← hcut, List.getLast?_concat] at hlast
    exact absurd rfl hlast
  · obtain ⟨rfl, htwo⟩ := List.cons_prefix_cons.1 hback
    obtain ⟨rfl, -⟩ := List.cons_prefix_cons.1 htwo
    have hinfix : [x, y] <:+: y :: tail := by
      refine ⟨front, back, ?_⟩
      rw [List.cons_append, List.cons.injEq] at hcut
      simpa using hcut.2
    obtain hinfix | hinfix := List.infix_cons_iff.1 hinfix
    · exact absurd (List.cons_prefix_cons.1 hinfix).1 hab
    · exact absurd hinfix htail

/-- A separator whose last character stands nowhere else in it is unbordered. -/
theorem unbordered_concat {front : List α} {last : α} (h : last ∉ front) :
    Unbordered (front ++ [last]) := by
  intro before border hcut hborder
  rcases before with _ | ⟨c, before⟩
  · exact .inl rfl
  rcases List.eq_nil_or_concat' border with rfl | ⟨inner, last', rfl⟩
  · exact .inr rfl
  · obtain ⟨hfront, hlast⟩ : (c :: before) ++ inner = front ∧ [last'] = [last] :=
      List.append_inj' (by rw [← hcut, List.append_assoc]) rfl
    obtain rfl : last' = last := List.singleton_inj.1 hlast
    -- A border shorter than the separator would lie in front of the last character.
    have hlength : (inner ++ [last']).length ≤ front.length := by
      rw [← hfront]
      simp
    have hinside : inner ++ [last'] <+: front :=
      List.prefix_of_prefix_length_le hborder (List.prefix_append _ _) hlength
    exact absurd (hinside.subset (by simp)) h

/-! ## Pieces -/

/-- Every text is joined of texts that do not hold the separator. -/
theorem exists_pieces {sep : String} (hsep : sep ≠ "") (text : String) :
    ∃ pieces : List String, pieces ≠ [] ∧ sep.intercalate pieces = text ∧
      ∀ piece ∈ pieces, ¬ sep.toList <:+: piece.toList := by
  -- By induction on the length: a separator inside a text leaves a shorter one on either side.
  induction hlength : text.length using Nat.strong_induction_on generalizing text with
  | _ n ih =>
    subst hlength
    by_cases hinfix : sep.toList <:+: text.toList
    · obtain ⟨before, after, happend⟩ := hinfix
      have htext : String.ofList before ++ sep ++ String.ofList after = text := by
        apply String.toList_injective
        simpa using happend
      have hlengths := congrArg String.length htext
      have hpositive : 0 < sep.length := by
        rw [Nat.pos_iff_ne_zero, ne_eq, String.length_eq_zero_iff]
        exact hsep
      rw [String.length_append, String.length_append] at hlengths
      obtain ⟨front, hfront, hfrontText, hfrontFree⟩ :=
        ih _ (by omega) (String.ofList before) rfl
      obtain ⟨back, hback, hbackText, hbackFree⟩ := ih _ (by omega) (String.ofList after) rfl
      refine ⟨front ++ back, by simp [hfront], ?_, ?_⟩
      · rw [String.intercalate_append_of_ne_nil hfront hback, hfrontText, hbackText, htext]
      · intro piece hpiece
        exact (List.mem_append.1 hpiece).elim (hfrontFree piece) (hbackFree piece)
    · exact ⟨[text], List.cons_ne_nil _ _, String.intercalate_singleton, by simpa using hinfix⟩

/-- Joining lists of texts one by one and then together is joining all of them. -/
theorem intercalate_flatten (sep : String) {groups : List (List String)}
    (h : ∀ group ∈ groups, group ≠ []) :
    sep.intercalate (groups.map sep.intercalate) = sep.intercalate groups.flatten := by
  induction groups with
  | nil => rfl
  | cons group groups ih =>
    obtain ⟨hgroup, hgroups⟩ := List.forall_mem_cons.1 h
    cases groups with
    | nil => simp
    | cons next groups =>
      have hrest : (next :: groups).flatten ≠ [] := by simp [hgroups next List.mem_cons_self]
      rw [List.map_cons, List.flatten_cons, String.intercalate_append_of_ne_nil hgroup hrest,
        ← ih hgroups, String.intercalate_cons_of_ne_nil (by simp)]

end CubeQuery.Text
