set_option autoImplicit false

/-!
# Blanks

White space as the Unicode property White_Space gives it, and the two ends of a text: what is
trimmed from them and what runs up to them.

Main statements: the ends of a list lose nothing (`dropTrailing_append_takeTrailing`), and
characters among which there is no blank are trimmed of nothing (`trimChars_eq_self`).
-/

namespace CubeQuery.Text

/-- The code points with the property White_Space, as closed ranges. -/
def blankRanges : List (Nat × Nat) :=
  [(0x09, 0x0D), (0x20, 0x20), (0x85, 0x85), (0xA0, 0xA0), (0x1680, 0x1680),
    (0x2000, 0x200A), (0x2028, 0x2029), (0x202F, 0x202F), (0x205F, 0x205F), (0x3000, 0x3000)]

/-- Whether a character is white space. -/
def isBlank (c : Char) : Bool :=
  blankRanges.any fun range => range.1 ≤ c.toNat && c.toNat ≤ range.2

/-- A list without the longest final run of elements that satisfy `p`. -/
def dropTrailing {α : Type} (p : α → Bool) (xs : List α) : List α :=
  (xs.reverse.dropWhile p).reverse

/-- The longest final run of elements that satisfy `p`. -/
def takeTrailing {α : Type} (p : α → Bool) (xs : List α) : List α :=
  (xs.reverse.takeWhile p).reverse

/-- Characters without the blanks at both ends. -/
def trimChars (cs : List Char) : List Char :=
  dropTrailing isBlank (cs.dropWhile isBlank)

/-- A text without the blanks at both ends. -/
def trim (s : String) : String :=
  String.ofList (trimChars s.toList)

/-- Whether a text holds nothing but blanks. -/
def isAllBlank (s : String) : Bool :=
  s.toList.all isBlank

/-- Cutting a list before its final run loses nothing. -/
theorem dropTrailing_append_takeTrailing {α : Type} (p : α → Bool) (xs : List α) :
    dropTrailing p xs ++ takeTrailing p xs = xs := by
  unfold dropTrailing takeTrailing
  rw [← List.reverse_append, List.takeWhile_append_dropWhile, List.reverse_reverse]

/-- A digit is no blank. -/
theorem isBlank_of_isDigit {c : Char} (h : c.isDigit = true) : isBlank c = false := by
  simp only [Char.isDigit, Bool.and_eq_true, decide_eq_true_eq, UInt32.le_iff_toNat_le] at h
  obtain ⟨hlow, hhigh⟩ := h
  have hlow' : 48 ≤ c.toNat := hlow
  have hhigh' : c.toNat ≤ 57 := hhigh
  simp only [isBlank, blankRanges, List.any_cons, List.any_nil, Bool.or_false,
    Bool.or_eq_false_iff, Bool.and_eq_false_iff, decide_eq_false_iff_not]
  omega

/-- Characters among which there is no blank are trimmed of nothing. -/
theorem trimChars_eq_self {cs : List Char} (h : ∀ c ∈ cs, isBlank c = false) :
    trimChars cs = cs := by
  have hdrop : ∀ list : List Char, (∀ c ∈ list, isBlank c = false) →
      list.dropWhile isBlank = list := by
    intro list hlist
    cases list with
    | nil => rfl
    | cons first rest =>
      exact List.dropWhile_cons_of_neg (by simp [hlist first List.mem_cons_self])
  have hreverse : ∀ c ∈ cs.reverse, isBlank c = false := fun c hc => h c (List.mem_reverse.1 hc)
  rw [trimChars, hdrop cs h, dropTrailing, hdrop cs.reverse hreverse, List.reverse_reverse]

end CubeQuery.Text
