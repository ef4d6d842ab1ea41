import CubeQuery.Proofs.Text.Ends
import CubeQuery.Request.Shorthand

set_option autoImplicit false

/-!
# The parts at the end of a filter's text

What is taken off the end of a filter's text, for each of the three parts. A key and a word are
taken off exactly when the text ends in one (`splitKey?_eq_some_iff`, `splitReading?_eq_some_iff`).
A comparison is taken off at the last operator of a text, so that it is found where nothing but
characters of an operand is behind that operator (`splitComparison?_eq_some`), and not when
something else is (`splitComparison?_eq_none`).
-/

namespace CubeQuery.Request

open Text (isBlank EndsOutside)

/-! ## Characters -/

theorem isOperatorChar_iff (c : Char) : isOperatorChar c = true ↔ c = '<' ∨ c = '>' ∨ c = '=' := by
  simp [isOperatorChar, or_assoc]

theorem isOperatorChar_of_isBlank {c : Char} (h : isBlank c = true) : isOperatorChar c = false := by
  rw [Bool.eq_false_iff, ne_eq, isOperatorChar_iff]
  rintro (rfl | rfl | rfl) <;> exact absurd h (by decide)

theorem isOperatorChar_of_isKeyChar {c : Char} (h : isKeyChar c = true) :
    isOperatorChar c = false := by
  rw [Bool.eq_false_iff, ne_eq, isOperatorChar_iff]
  rintro (rfl | rfl | rfl) <;> exact absurd h (by decide)

/-! ## Member keys -/

/-- A member key as it is written. -/
def keyText (key : List Char) : List Char :=
  '&' :: '[' :: (key ++ [']'])

/-- Characters that a member key may be made of, of which there is at least one. -/
def IsKey (key : List Char) : Prop :=
  key ≠ [] ∧ ∀ c ∈ key, isKeyChar c = true

/-- Characters end in a member key. -/
def EndsInKey (cs : List Char) : Prop :=
  ∃ before key, IsKey key ∧ cs = before ++ keyText key

theorem splitKey?_append {before key : List Char} (h : IsKey key) :
    splitKey? (before ++ keyText key) = some (before, key) := by
  obtain ⟨hne, hkey⟩ := h
  have hreverse : (before ++ keyText key).reverse =
      ']' :: (key.reverse ++ '[' :: '&' :: before.reverse) := by
    simp [keyText]
  have hall : ∀ c ∈ key.reverse, isKeyChar c = true := fun c hc => hkey c (List.mem_reverse.1 hc)
  have hstop : ¬ isKeyChar '[' = true := by decide
  simp only [splitKey?, hreverse, List.takeWhile_append_of_pos hall,
    List.dropWhile_append_of_pos hall, List.dropWhile_cons_of_neg hstop,
    List.takeWhile_cons_of_neg hstop, List.append_nil]
  simp [hne]

theorem of_splitKey?_eq_some {cs before key : List Char}
    (h : splitKey? cs = some (before, key)) : IsKey key ∧ cs = before ++ keyText key := by
  unfold splitKey? at h
  split at h
  · next rest hcs =>
    simp only at h
    split at h
    · next front hdrop =>
      split at h
      · cases h
      · next hne =>
        cases h
        have hkey : IsKey (rest.takeWhile isKeyChar).reverse :=
          ⟨by simpa using hne, fun c hc => List.mem_takeWhile_imp (List.mem_reverse.1 hc)⟩
        have hrest := List.takeWhile_append_dropWhile (p := isKeyChar) (l := rest)
        rw [hdrop] at hrest
        refine ⟨hkey, List.reverse_injective ?_⟩
        rw [hcs, ← hrest]
        simp [keyText, hrest]
    · cases h
  · cases h

theorem splitKey?_eq_some_iff (cs before key : List Char) :
    splitKey? cs = some (before, key) ↔ IsKey key ∧ cs = before ++ keyText key := by
  refine ⟨of_splitKey?_eq_some, ?_⟩
  rintro ⟨hkey, rfl⟩
  exact splitKey?_append hkey

theorem splitKey?_eq_none_iff (cs : List Char) : splitKey? cs = none ↔ ¬ EndsInKey cs := by
  rw [Option.eq_none_iff_forall_not_mem]
  constructor
  · rintro h ⟨before, key, hends⟩
    exact h _ ((splitKey?_eq_some_iff cs before key).2 hends)
  · rintro h ⟨before, key⟩ hsplit
    exact h ⟨before, key, (splitKey?_eq_some_iff cs before key).1 hsplit⟩

/-- Characters are what is left of them, and the key that is taken off if there is one. -/
theorem exists_splitKey? (cs : List Char) :
    ∃ (key : Option (List Char)) (before : List Char),
      splitKey? cs = key.map (before, ·) ∧ (key = none → before = cs) ∧
        before ++ key.elim [] keyText = cs ∧ ∀ k ∈ key, IsKey k := by
  cases hsplit : splitKey? cs with
  | none => exact ⟨none, cs, rfl, fun _ => rfl, List.append_nil cs, nofun⟩
  | some split =>
    obtain ⟨hkey, hcs⟩ := (splitKey?_eq_some_iff cs split.1 split.2).1 hsplit
    exact ⟨some split.2, split.1, rfl, nofun, hcs.symm, fun k hk => Option.some.inj hk ▸ hkey⟩

/-! ## Words -/

theorem length_of_spells {cs : List Char} {word : String} (h : Text.spells cs word = true) :
    cs.length = word.length := by
  have hmap := congrArg List.length (beq_iff_eq.1 h)
  rw [List.length_map, String.length_toList] at hmap
  exact hmap

theorem splitWord?_eq_some_iff (word : String) (cs before last : List Char) :
    splitWord? word cs = some (before, last) ↔
      Text.spells last word = true ∧ cs = before ++ '.' :: last := by
  constructor
  · intro h
    simp only [splitWord?, Option.ite_none_right_eq_some, Bool.and_eq_true, beq_iff_eq,
      Option.some.injEq, Prod.mk.injEq] at h
    obtain ⟨⟨hspells, hpoint⟩, rfl, rfl⟩ := h
    refine ⟨hspells, ?_⟩
    have hfront := List.dropLast_append_getLast? '.' hpoint
    rw [← List.singleton_append, ← List.append_assoc, hfront, List.take_append_drop]
  · rintro ⟨hspells, rfl⟩
    have hlength := length_of_spells hspells
    have hsplit : (before ++ '.' :: last).length - word.length = (before ++ ['.']).length := by
      simp only [List.length_append, List.length_cons, List.length_nil]
      omega
    have htext : before ++ '.' :: last = (before ++ ['.']) ++ last := by simp
    simp only [splitWord?, hsplit]
    rw [htext, List.take_left, List.drop_left]
    simp [hspells]

/-- Characters spell one of the words that say how a level is read. -/
def IsReading (word : List Char) : Prop :=
  Text.spells word "children" = true ∨ Text.spells word "members" = true

theorem fold_of_isBlank {c : Char} (h : isBlank c = true) : Text.fold c = c := by
  simp only [isBlank, Text.blankRanges, List.any_cons, List.any_nil, Bool.or_false, Bool.or_eq_true,
    Bool.and_eq_true, decide_eq_true_eq] at h
  have hlong : c ≠ 'ſ' := by
    rintro rfl
    revert h
    decide
  have hcapital : ¬ ('A' ≤ c ∧ c ≤ 'Z') := by
    rintro ⟨hlow, hhigh⟩
    have hlow' : 65 ≤ c.toNat := hlow
    have hhigh' : c.toNat ≤ 90 := hhigh
    omega
  rw [Text.fold, if_neg hlong, Text.lower, if_neg hcapital]

theorem fold_of_isOperatorChar {c : Char} (h : isOperatorChar c = true) : Text.fold c = c := by
  rw [isOperatorChar_iff] at h
  rcases h with rfl | rfl | rfl <;> decide

/-- A word is made of letters: a character that folds to itself and is no letter is not in it. -/
theorem IsReading.of_mem {word : List Char} (h : IsReading word) {c : Char} (hc : c ∈ word) :
    isBlank c = false ∧ isOperatorChar c = false ∧ c ≠ ']' := by
  have hletters : ∀ x ∈ "children".toList ++ "members".toList,
      isBlank x = false ∧ isOperatorChar x = false ∧ x ≠ ']' :=
    List.forall_iff_forall_mem.1 (by decide)
  have hfold : Text.fold c ∈ "children".toList ++ "members".toList := by
    have hmem := List.mem_map_of_mem (f := Text.fold) hc
    obtain hspells | hspells := h
    · rw [beq_iff_eq.1 hspells] at hmem
      exact List.mem_append_left _ hmem
    · rw [beq_iff_eq.1 hspells] at hmem
      exact List.mem_append_right _ hmem
  refine ⟨?_, ?_, ?_⟩
  · by_contra hblank
    rw [Bool.not_eq_false] at hblank
    rw [fold_of_isBlank hblank] at hfold
    exact absurd hblank (by simp [hletters c hfold])
  · by_contra hoperator
    rw [Bool.not_eq_false] at hoperator
    rw [fold_of_isOperatorChar hoperator] at hfold
    exact absurd hoperator (by simp [hletters c hfold])
  · rintro rfl
    exact absurd hfold (by decide)

theorem IsReading.ne_nil {word : List Char} (h : IsReading word) : word ≠ [] := by
  rintro rfl
  obtain h | h := h <;> exact absurd h (by decide)

/-- Characters with a word at their end end in a character of the word. -/
theorem IsReading.exists_getLast? {word : List Char} (h : IsReading word) (before : List Char) :
    ∃ c ∈ word, (before ++ '.' :: word).getLast? = some c := by
  refine ⟨word.getLast h.ne_nil, List.getLast_mem h.ne_nil, ?_⟩
  rw [← List.singleton_append, ← List.append_assoc, List.getLast?_append_of_ne_nil _ h.ne_nil,
    List.getLast?_eq_some_getLast]

theorem spells_of_spellsPlainly {word : List Char} {name : String} (hname : 'ſ' ∉ name.toList)
    (h : Text.spellsPlainly word name = true) : Text.spells word name = true := by
  rw [Text.spellsPlainly, beq_iff_eq] at h
  rw [Text.spells, beq_iff_eq, ← h]
  apply List.map_congr_left
  intro c hc
  have hlong : c ≠ 'ſ' := by
    rintro rfl
    have hmem := List.mem_map_of_mem (f := Text.lower) hc
    rw [h] at hmem
    exact hname hmem
  rw [Text.fold, if_neg hlong]

/-- Among ASCII characters letters are folded as their case is dropped. -/
theorem spellsPlainly_eq_spells {word : List Char} (h : ∀ c ∈ word, c.toNat < 128) (name : String) :
    Text.spellsPlainly word name = Text.spells word name := by
  have hmap : word.map Text.lower = word.map Text.fold := by
    apply List.map_congr_left
    intro c hc
    have hlong : c ≠ 'ſ' := by
      rintro rfl
      exact absurd (h _ hc) (by decide)
    rw [Text.fold, if_neg hlong]
  rw [Text.spellsPlainly, Text.spells, hmap]

/-- The aggregate member is left out by a word that is too long to include it. -/
theorem spellsPlainly_members_of_children {word : List Char}
    (h : Text.spells word "children" = true) : Text.spellsPlainly word "members" = false := by
  by_contra hplain
  rw [Bool.not_eq_false] at hplain
  have hmembers := length_of_spells (spells_of_spellsPlainly (by decide) hplain)
  rw [length_of_spells h] at hmembers
  exact absurd hmembers (by decide)

/-- The longer word is not found where the shorter one is: it would begin with the point before. -/
theorem splitWord?_children_of_members {before word : List Char}
    (h : Text.spells word "members" = true) :
    splitWord? "children" (before ++ '.' :: word) = none := by
  rw [Option.eq_none_iff_forall_not_mem]
  rintro ⟨front, other⟩ hother
  obtain ⟨hchildren, heq⟩ := (splitWord?_eq_some_iff _ _ _ _).1 hother
  have hshift : before ++ '.' :: word = (front ++ ['.']) ++ other := by simpa using heq
  have hlength : ('.' :: word).length = other.length := by
    rw [length_of_spells hchildren, List.length_cons, length_of_spells h]
    decide
  rw [← List.append_inj_right' hshift hlength] at hchildren
  have hpoint := congrArg List.head? (beq_iff_eq.1 hchildren)
  exact absurd hpoint (by simp [Text.fold, Text.lower])

theorem splitReading?_eq_some_iff (cs before : List Char) (includeAll : Bool) :
    splitReading? cs = some (before, includeAll) ↔ ∃ word, IsReading word ∧
      cs = before ++ '.' :: word ∧ includeAll = Text.spellsPlainly word "members" := by
  constructor
  · intro h
    unfold splitReading? at h
    split at h
    · next front word hsplit =>
      obtain ⟨hspells, rfl⟩ := (splitWord?_eq_some_iff _ _ _ _).1 hsplit
      cases h
      exact ⟨word, .inl hspells, rfl, (spellsPlainly_members_of_children hspells).symm⟩
    · obtain ⟨⟨front, word⟩, hsplit, heq⟩ := Option.map_eq_some_iff.1 h
      obtain ⟨hspells, rfl⟩ := (splitWord?_eq_some_iff _ _ _ _).1 hsplit
      cases heq
      exact ⟨word, .inr hspells, rfl, rfl⟩
  · rintro ⟨word, hspells | hspells, rfl, rfl⟩
    · have hsplit := (splitWord?_eq_some_iff _ _ before _).2 ⟨hspells, rfl⟩
      rw [splitReading?, hsplit, spellsPlainly_members_of_children hspells]
    · have hsplit := (splitWord?_eq_some_iff _ _ before _).2 ⟨hspells, rfl⟩
      rw [splitReading?, splitWord?_children_of_members hspells, hsplit]
      rfl

theorem splitReading?_eq_none_iff (cs : List Char) :
    splitReading? cs = none ↔ ∀ before word, IsReading word → cs ≠ before ++ '.' :: word := by
  constructor
  · rintro h before word hword rfl
    have hsome := (splitReading?_eq_some_iff _ before _).2 ⟨word, hword, rfl, rfl⟩
    rw [h] at hsome
    cases hsome
  · intro h
    rw [Option.eq_none_iff_forall_not_mem]
    rintro ⟨before, includeAll⟩ hsplit
    obtain ⟨word, hword, hcs, -⟩ := (splitReading?_eq_some_iff _ _ _).1 hsplit
    exact h before word hword hcs

/-- Characters are what is left of them, and the word that is taken off if there is one. -/
theorem exists_splitReading? (cs : List Char) :
    ∃ (word : Option (List Char)) (front : List Char),
      splitReading? cs = word.map (fun w => (front, Text.spellsPlainly w "members")) ∧
        (word = none → front = cs) ∧ front ++ word.elim [] ('.' :: ·) = cs ∧
        ∀ w ∈ word, IsReading w := by
  cases hsplit : splitReading? cs with
  | none => exact ⟨none, cs, rfl, fun _ => rfl, List.append_nil cs, nofun⟩
  | some split =>
    obtain ⟨w, hw, hcs, hall⟩ := (splitReading?_eq_some_iff _ _ _).1 hsplit
    refine ⟨some w, split.1, ?_, nofun, hcs.symm, fun x hx => Option.some.inj hx ▸ hw⟩
    rw [Option.map_some, ← hall]

/-! ## Comparisons -/

/-- One or two characters of an operator. -/
def IsSigns (signs : List Char) : Prop :=
  signs ≠ [] ∧ signs.length ≤ 2 ∧ ∀ c ∈ signs, isOperatorChar c = true

theorem splitComparison?_eq_some {before gap signs behind operand : List Char}
    (hbefore : EndsOutside isBlank before) (hfront : EndsOutside isOperatorChar (before ++ gap))
    (hgap : ∀ c ∈ gap, isBlank c = true) (hsigns : IsSigns signs)
    (hbehind : ∀ c ∈ behind, isBlank c = true) (hoperand : IsKey operand)
    (hfirst : ∀ c ∈ operand.head?, isBlank c = false) :
    splitComparison? (before ++ gap ++ signs ++ (behind ++ operand)) =
      some (before, gap, ⟨signs, behind, operand⟩) := by
  obtain ⟨hne, hlength, hsigns⟩ := hsigns
  obtain ⟨hoperandNe, hoperand⟩ := hoperand
  have hout : EndsOutside (fun c => !isOperatorChar c) (before ++ gap ++ signs) := by
    intro c hc
    rw [List.getLast?_append_of_ne_nil _ hne] at hc
    rw [Bool.not_eq_false']
    exact hsigns c (List.mem_of_getLast? hc)
  have htail : ∀ c ∈ behind ++ operand, (!isOperatorChar c) = true := by
    intro c hc
    rw [Bool.not_eq_true']
    exact (List.mem_append.1 hc).elim (fun hc => isOperatorChar_of_isBlank (hbehind c hc))
      fun hc => isOperatorChar_of_isKeyChar (hoperand c hc)
  have hoperator : signs.drop (signs.length - 2) = signs := by
    rw [Nat.sub_eq_zero_of_le hlength, List.drop_zero]
  have hhead : (before ++ gap ++ signs).length - signs.length = (before ++ gap).length := by
    rw [List.length_append, Nat.add_sub_cancel]
  have hstart : operand.dropWhile isBlank = operand ∧ operand.takeWhile isBlank = [] := by
    cases operand with
    | nil => exact ⟨rfl, rfl⟩
    | cons c rest =>
      have hc : ¬ isBlank c = true := by simp [hfirst c rfl]
      exact ⟨List.dropWhile_cons_of_neg hc, List.takeWhile_cons_of_neg hc⟩
  simp only [splitComparison?, Text.takeTrailing_append hout htail,
    Text.dropTrailing_append hout htail, Text.takeTrailing_append hfront hsigns, hoperator, hhead,
    List.take_left, List.dropWhile_append_of_pos hbehind, List.takeWhile_append_of_pos hbehind,
    hstart, Text.dropTrailing_append hbefore hgap, Text.takeTrailing_append hbefore hgap,
    List.append_nil]
  simp [hne, hoperandNe, List.all_eq_true.2 hoperand]

/-- A character that no operand holds stands in the way of every comparison before it. -/
theorem splitComparison?_eq_none {front back : List Char} {c : Char}
    (hoperator : isOperatorChar c = false) (hblank : isBlank c = false)
    (hkey : isKeyChar c = false) (hback : ∀ x ∈ back, isOperatorChar x = false) :
    splitComparison? (front ++ c :: back) = none := by
  have htail : c ∈ Text.takeTrailing (fun x => !isOperatorChar x) (front ++ c :: back) := by
    have hall : ∀ x ∈ (c :: back).reverse, (!isOperatorChar x) = true := by
      intro x hx
      rw [Bool.not_eq_true']
      rcases List.mem_cons.1 (List.mem_reverse.1 hx) with rfl | hx
      · exact hoperator
      · exact hback x hx
    rw [Text.takeTrailing, List.mem_reverse, List.reverse_append, List.takeWhile_append_of_pos hall]
    simp
  have hoperand : c ∈ (Text.takeTrailing (fun x => !isOperatorChar x)
      (front ++ c :: back)).dropWhile isBlank := by
    have hcut := List.takeWhile_append_dropWhile (p := isBlank)
      (l := Text.takeTrailing (fun x => !isOperatorChar x) (front ++ c :: back))
    rw [← hcut, List.mem_append] at htail
    refine htail.resolve_left fun hc => ?_
    rw [List.mem_takeWhile_imp hc] at hblank
    cases hblank
  have hall : ((Text.takeTrailing (fun x => !isOperatorChar x)
      (front ++ c :: back)).dropWhile isBlank).all isKeyChar = false :=
    List.all_eq_false.2 ⟨c, hoperand, by simp [hkey]⟩
  simp [splitComparison?, hall]

/-- What a comparison that is split off is made of. -/
theorem of_splitComparison?_eq_some {cs before gap : List Char} {part : ComparisonPart}
    (h : splitComparison? cs = some (before, gap, part)) :
    EndsOutside isBlank before ∧ (∀ c ∈ gap, isBlank c = true) ∧ IsSigns part.operator ∧
      (∀ c ∈ part.gap, isBlank c = true) ∧ IsKey part.operand ∧
      ∀ c ∈ part.operand.head?, isBlank c = false := by
  unfold splitComparison? at h
  simp only at h
  split at h
  · cases h
  · next hparts =>
    cases h
    simp only [Bool.or_eq_true, not_or, List.isEmpty_iff, Bool.not_eq_true', Bool.not_eq_false,
      List.all_eq_true] at hparts
    obtain ⟨⟨hsigns, hoperand⟩, hkey⟩ := hparts
    refine ⟨Text.endsOutside_dropTrailing _ _, fun c hc => Text.mem_takeTrailing hc,
      ⟨hsigns, ?_, fun c hc => Text.mem_takeTrailing (List.mem_of_mem_drop hc)⟩,
      fun c hc => List.mem_takeWhile_imp hc, ⟨hoperand, hkey⟩, fun c hc => ?_⟩
    · rw [List.length_drop]
      omega
    · have hhead := List.head?_dropWhile_not isBlank
        (Text.takeTrailing (fun c => !isOperatorChar c) cs)
      rw [Option.mem_def.1 hc] at hhead
      exact hhead

end CubeQuery.Request
