import CubeQuery.Text.Blank
import CubeQuery.Text.Word
import Mathlib.Data.List.DropRight

set_option autoImplicit false

/-!
# Ends of texts

Where a text is cut when something is taken off its end. A list has one longest final run of
elements of a kind, and it is found by cutting the list where the element before the run is of
another kind (`dropTrailing_append`, `takeTrailing_append`).

Main statements: characters are trimmed to something without blanks at its ends
(`isTrimmed_trimChars`), and of nothing else than blanks (`trimChars_append`).
-/

namespace CubeQuery.Text

variable {α : Type} {p : α → Bool}

/-! ## Final runs -/

/-- A list does not end in an element of a kind. -/
def EndsOutside (p : α → Bool) (xs : List α) : Prop :=
  ∀ x ∈ xs.getLast?, p x = false

theorem endsOutside_concat (xs : List α) (x : α) : EndsOutside p (xs ++ [x]) ↔ p x = false := by
  simp [EndsOutside]

theorem dropTrailing_append {xs ys : List α} (hxs : EndsOutside p xs) (hys : ∀ y ∈ ys, p y = true) :
    dropTrailing p (xs ++ ys) = xs := by
  rw [dropTrailing, List.reverse_append, List.dropWhile_append_of_pos (by simpa using hys)]
  cases xs using List.reverseRecOn with
  | nil => rfl
  | append_singleton xs x =>
    rw [List.reverse_append, List.reverse_singleton, List.singleton_append,
      List.dropWhile_cons_of_neg (by simp [(endsOutside_concat xs x).1 hxs])]
    simp

theorem takeTrailing_append {xs ys : List α} (hxs : EndsOutside p xs) (hys : ∀ y ∈ ys, p y = true) :
    takeTrailing p (xs ++ ys) = ys := by
  have hcut := dropTrailing_append_takeTrailing p (xs ++ ys)
  rw [dropTrailing_append hxs hys] at hcut
  exact List.append_cancel_left hcut

theorem takeTrailing_eq_nil {xs : List α} (h : EndsOutside p xs) : takeTrailing p xs = [] := by
  have hnone : ∀ y ∈ ([] : List α), p y = true := nofun
  have htail := takeTrailing_append h hnone
  rw [List.append_nil] at htail
  exact htail

theorem endsOutside_dropTrailing (p : α → Bool) (xs : List α) :
    EndsOutside p (dropTrailing p xs) := by
  intro x hx
  rw [dropTrailing, List.getLast?_reverse, Option.mem_def] at hx
  have hhead := List.head?_dropWhile_not p xs.reverse
  rw [hx] at hhead
  exact hhead

theorem mem_takeTrailing {xs : List α} {x : α} (h : x ∈ takeTrailing p xs) : p x = true := by
  rw [takeTrailing, List.mem_reverse] at h
  exact List.mem_takeWhile_imp h

/-! ## Trimmed characters -/

/-- Characters begin and end with something other than a blank, if there are any. -/
def IsTrimmed (cs : List Char) : Prop :=
  (∀ c ∈ cs.head?, isBlank c = false) ∧ EndsOutside isBlank cs

/-- Blanks behind characters without blanks at their ends are trimmed, and nothing else. -/
theorem trimChars_append {cs blanks : List Char} (h : IsTrimmed cs)
    (hblanks : ∀ c ∈ blanks, isBlank c = true) : trimChars (cs ++ blanks) = cs := by
  cases cs with
  | nil =>
    rw [List.nil_append, trimChars, List.dropWhile_eq_nil_iff.2 hblanks]
    rfl
  | cons c rest =>
    rw [trimChars, List.cons_append, List.dropWhile_cons_of_neg (by simp [h.1 c rfl]),
      ← List.cons_append, dropTrailing_append h.2 hblanks]

theorem trimChars_of_isTrimmed {cs : List Char} (h : IsTrimmed cs) : trimChars cs = cs := by
  have hblanks : ∀ c ∈ ([] : List Char), isBlank c = true := nofun
  have htrim := trimChars_append h hblanks
  rw [List.append_nil] at htrim
  exact htrim

/-- A list that begins outside a kind keeps its beginning when its end is cut. -/
theorem head?_dropTrailing {xs : List α} (h : ∀ x ∈ xs.head?, p x = false) :
    ∀ x ∈ (dropTrailing p xs).head?, p x = false := by
  intro x hx
  have hcut := dropTrailing_append_takeTrailing p xs
  rw [← hcut, List.head?_append, Option.mem_def.1 hx] at h
  exact h x rfl

theorem isTrimmed_trimChars (cs : List Char) : IsTrimmed (trimChars cs) := by
  refine ⟨head?_dropTrailing fun c hc => ?_, endsOutside_dropTrailing isBlank _⟩
  have hhead := List.head?_dropWhile_not isBlank cs
  rw [Option.mem_def.1 hc] at hhead
  exact hhead

/-- Characters that begin with no blank are what they are trimmed to, and the blanks behind it. -/
theorem trimChars_append_takeTrailing {cs : List Char} (h : ∀ c ∈ cs.head?, isBlank c = false) :
    trimChars cs ++ takeTrailing isBlank cs = cs := by
  have hfront : cs.dropWhile isBlank = cs := by
    cases cs with
    | nil => rfl
    | cons c rest => exact List.dropWhile_cons_of_neg (by simp [h c rfl])
  rw [trimChars, hfront, dropTrailing_append_takeTrailing]

theorem mem_of_mem_trimChars {cs : List Char} {c : Char} (h : c ∈ trimChars cs) : c ∈ cs := by
  rw [trimChars, dropTrailing, List.mem_reverse] at h
  exact (List.dropWhile_sublist _).subset
    (List.mem_reverse.1 ((List.dropWhile_sublist _).subset h))

end CubeQuery.Text
