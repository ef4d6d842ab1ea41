import CubeQuery.Proofs.Outcome
import CubeQuery.Proofs.Request.FilterParts

set_option autoImplicit false

/-!
# Written filters

The form in which a filter is written, part by part, and the filter that is so written. A level may
be followed by a word that says how it is read, by a member key and by a comparison. The parts are
taken off the end of a text one after another, so that what is read depends on no part being found
inside another one: no operand holds the bracket at the end of a level or of a key, and a word ends
in a letter.

Main statement: a text that is made of these parts is read as the filter that they write, provided
that the level does not itself end in a member key; and every ASCII text that is read as a filter is
made of them (`written_filters_read`).
-/

namespace CubeQuery.Request

open Mdx (Level Comparison)
open Text (isBlank EndsOutside IsTrimmed)

/-! ## The written form -/

/-- A comparison as it is written: an operator between blanks, and a value. -/
structure WrittenComparison where
  before : List Char
  operator : Comparison
  behind : List Char
  value : List Char

/-- A level as it is written, with how it is read and with a member key. -/
structure WrittenHead where
  level : List Char
  gap : List Char
  word : Option (List Char)
  key : Option (List Char)

/-- A filter as it is written. -/
structure WrittenFilter where
  head : WrittenHead
  comparison : Option WrittenComparison

namespace WrittenComparison

/-- The characters of a comparison. -/
def text (w : WrittenComparison) : List Char :=
  w.before ++ w.operator.text.toList ++ (w.behind ++ w.value)

/-- A comparison has blanks where it may, and a value that begins and ends with none. -/
structure IsWellFormed (w : WrittenComparison) : Prop where
  before : ∀ c ∈ w.before, isBlank c = true
  behind : ∀ c ∈ w.behind, isBlank c = true
  value : IsKey w.value
  trimmed : IsTrimmed w.value

end WrittenComparison

namespace WrittenHead

/-- The characters of a level with its word. -/
def reading (w : WrittenHead) : List Char :=
  w.level ++ w.gap ++ w.word.elim [] ('.' :: ·)

/-- The characters of a level with its word and its key. -/
def text (w : WrittenHead) : List Char :=
  w.reading ++ w.key.elim [] keyText

/-- Whether the word of a level is the one that includes the aggregate member. -/
def includesAll (w : WrittenHead) : Bool :=
  w.word.any (Text.spellsPlainly · "members")

/-- The key of a level, inferred. -/
def keys (w : WrittenHead) : List Value :=
  (w.key.map fun key => Value.infer (String.ofList key)).toList

/-- A level is bracketed, its word one of the two and its key made of the characters of keys. Blanks
behind the level stand before a word or a key. -/
structure IsWellFormed (w : WrittenHead) : Prop where
  level : Mdx.isBracketed (String.ofList w.level) = true
  gap : ∀ c ∈ w.gap, isBlank c = true
  gap_eq_nil : w.word = none → w.key = none → w.gap = []
  word : ∀ word ∈ w.word,
    Text.spellsPlainly word "members" = true ∨ Text.spellsPlainly word "children" = true
  key : ∀ key ∈ w.key, IsKey key

end WrittenHead

namespace WrittenFilter

/-- The characters of a filter. -/
def text (w : WrittenFilter) : List Char :=
  w.head.text ++ w.comparison.elim [] (·.text)

/-- The filter that is written. -/
def filter (w : WrittenFilter) : Filter where
  level := ⟨String.ofList w.head.level⟩
  comparison := w.comparison.map (·.operator)
  comparisonValue := w.comparison.map fun c => Value.infer (String.ofList c.value)
  includeAll := w.head.includesAll
  includeTotalCount := false
  memberKeys := w.head.keys

/-- All parts of a filter are well formed. -/
structure IsWellFormed (w : WrittenFilter) : Prop where
  head : w.head.IsWellFormed
  comparison : ∀ c ∈ w.comparison, c.IsWellFormed

end WrittenFilter

/-! ## Levels -/

theorem isBracketed_ofList_iff (cs : List Char) :
    Mdx.isBracketed (String.ofList cs) = true ↔ cs.head? = some '[' ∧ cs.getLast? = some ']' := by
  simp [Mdx.isBracketed]

theorem isTrimmed_of_isBracketed {cs : List Char}
    (h : Mdx.isBracketed (String.ofList cs) = true) : IsTrimmed cs := by
  obtain ⟨hhead, hlast⟩ := (isBracketed_ofList_iff cs).1 h
  refine ⟨fun c hc => ?_, fun c hc => ?_⟩
  · cases hhead.symm.trans hc
    decide
  · cases hlast.symm.trans hc
    decide

theorem EndsInKey.getLast? {cs : List Char} (h : EndsInKey cs) : cs.getLast? = some ']' := by
  obtain ⟨before, key, -, rfl⟩ := h
  have hconcat : before ++ keyText key = (before ++ '&' :: '[' :: key) ++ [']'] := by simp [keyText]
  rw [hconcat, List.getLast?_concat]

/-! ## The head of a filter -/

/-- The filter of the characters before a comparison, given what the comparison comes to. The text
as a whole is named by an error. -/
def filterOfHead (s : String) (cs : List Char) (filter : Filter) : Except Error Filter :=
  let (cs, filter) :=
    match splitKey? cs with
    | some (before, key) => (before, filter.withMembers [Value.infer (String.ofList key)])
    | none => (cs, filter)
  let (cs, includeAll) := (splitReading? cs).getD (cs, false)
  let name := String.ofList (Text.trimChars cs)
  if Mdx.isBracketed name then .ok { filter with level := ⟨name⟩, includeAll := includeAll }
  else .error (.invalidFilter (.notLevel s))

theorem parseFilter_of_some {s : String} {before gap : List Char} {part : ComparisonPart}
    (h : splitComparison? (Text.trimChars s.toList) = some (before, gap, part)) :
    parseFilter s = filterOfPart part >>= filterOfHead s before := by
  unfold parseFilter
  simp only [h]
  cases filterOfPart part with
  | error e => rfl
  | ok filter =>
    cases hkey : splitKey? before with
    | none => simp only [filterOfHead, Except.map, bind, Except.bind, hkey]
    | some split => simp only [filterOfHead, Except.map, bind, Except.bind, hkey]

theorem parseFilter_of_none {s : String}
    (h : splitComparison? (Text.trimChars s.toList) = none) :
    parseFilter s = filterOfHead s (Text.trimChars s.toList) (Filter.ofLevel ⟨""⟩) := by
  unfold parseFilter
  cases hkey : splitKey? (Text.trimChars s.toList) with
  | none => simp only [h, filterOfHead, bind, Except.bind, hkey]
  | some split => simp only [h, filterOfHead, bind, Except.bind, hkey]

/-- What comes of the characters before a comparison once its parts are split off. -/
theorem filterOfHead_eq {s : String} {base : Filter} {cs before front : List Char}
    {key word : Option (List Char)} (hbase : base.memberKeys = [])
    (hkey : splitKey? cs = key.map (before, ·)) (hkeyless : key = none → before = cs)
    (hword : splitReading? before = word.map fun w => (front, Text.spellsPlainly w "members"))
    (hwordless : word = none → front = before) :
    filterOfHead s cs base =
      if Mdx.isBracketed (String.ofList (Text.trimChars front)) then
        .ok { base with
          level := ⟨String.ofList (Text.trimChars front)⟩
          includeAll := word.any (Text.spellsPlainly · "members")
          memberKeys := (key.map fun key => Value.infer (String.ofList key)).toList }
      else .error (.invalidFilter (.notLevel s)) := by
  have hwords : (splitReading? before).getD (before, false) =
      (front, word.any (Text.spellsPlainly · "members")) := by
    rw [hword]
    cases word with
    | none => simp [hwordless rfl]
    | some word => rfl
  cases key with
  | none =>
    obtain rfl := hkeyless rfl
    simp only [filterOfHead, hkey, Option.map_none, hwords, Option.toList_none, ← hbase]
  | some key =>
    simp only [filterOfHead, hkey, Option.map_some, hwords, Option.toList_some]
    rfl

namespace WrittenHead.IsWellFormed

variable {w : WrittenHead}

theorem isReading (h : w.IsWellFormed) : ∀ word ∈ w.word, IsReading word := by
  intro word hword
  obtain hplain | hplain := h.word word hword
  · exact .inr (spells_of_spellsPlainly (by decide) hplain)
  · exact .inl (spells_of_spellsPlainly (by decide) hplain)

/-- A level with the blanks behind it ends in a bracket or in a blank. -/
theorem last_of_level (h : w.IsWellFormed) {c : Char} (hc : (w.level ++ w.gap).getLast? = some c) :
    c = ']' ∨ isBlank c = true := by
  rw [List.getLast?_append, Option.or_eq_some_iff] at hc
  obtain hc | ⟨-, hc⟩ := hc
  · exact .inr (h.gap c (List.mem_of_getLast? hc))
  · exact .inl (Option.some.inj (hc.symm.trans ((isBracketed_ofList_iff _).1 h.level).2))

theorem splitReading?_reading (h : w.IsWellFormed) :
    splitReading? w.reading =
      w.word.map fun word => (w.level ++ w.gap, Text.spellsPlainly word "members") := by
  rw [reading]
  cases hword : w.word with
  | none =>
    rw [Option.elim_none, List.append_nil, Option.map_none, splitReading?_eq_none_iff]
    intro before word hreading heq
    -- A word ends in a letter.
    obtain ⟨c, hc, hlast⟩ := hreading.exists_getLast? before
    rw [← heq] at hlast
    obtain ⟨hblank, -, hbracket⟩ := hreading.of_mem hc
    obtain rfl | hc := h.last_of_level hlast
    · exact hbracket rfl
    · rw [hc] at hblank
      cases hblank
  | some word =>
    exact (splitReading?_eq_some_iff _ _ _).2 ⟨word, h.isReading word hword, rfl, rfl⟩

theorem splitKey?_text (h : w.IsWellFormed) (hend : ¬ EndsInKey w.level) :
    splitKey? w.text = w.key.map (w.reading, ·) := by
  rw [text]
  cases hkey : w.key with
  | none =>
    rw [Option.elim_none, List.append_nil, Option.map_none, splitKey?_eq_none_iff, reading]
    cases hword : w.word with
    | none =>
      rw [h.gap_eq_nil hword hkey, Option.elim_none, List.append_nil, List.append_nil]
      exact hend
    | some word =>
      intro hends
      obtain ⟨c, hc, hlast⟩ := (h.isReading word hword).exists_getLast? (w.level ++ w.gap)
      obtain rfl := Option.some.inj (hlast.symm.trans hends.getLast?)
      exact ((h.isReading word hword).of_mem hc).2.2 rfl
  | some key => exact splitKey?_append (h.key key hkey)

/-- The head of a filter is read as it is written. -/
theorem filterOfHead_text (h : w.IsWellFormed) (hend : ¬ EndsInKey w.level) (s : String)
    {base : Filter} (hbase : base.memberKeys = []) :
    filterOfHead s w.text base = .ok { base with
      level := ⟨String.ofList w.level⟩
      includeAll := w.includesAll
      memberKeys := w.keys } := by
  have htrim : Text.trimChars (w.level ++ w.gap) = w.level :=
    Text.trimChars_append (isTrimmed_of_isBracketed h.level) h.gap
  have hkeyless : w.key = none → w.reading = w.text := by
    intro hkey
    rw [text, hkey, Option.elim_none, List.append_nil]
  have hwordless : w.word = none → w.level ++ w.gap = w.reading := by
    intro hword
    rw [reading, hword, Option.elim_none, List.append_nil]
  rw [filterOfHead_eq hbase (h.splitKey?_text hend) hkeyless h.splitReading?_reading hwordless,
    htrim, if_pos h.level]
  rfl

/-- The head of a filter ends in the bracket of its level or key, or in a letter of its word. -/
theorem exists_getLast?_text (h : w.IsWellFormed) :
    ∃ c, w.text.getLast? = some c ∧ isBlank c = false ∧ isOperatorChar c = false := by
  rw [text]
  cases hkey : w.key with
  | some key =>
    have hends : EndsInKey (w.reading ++ keyText key) := ⟨_, key, h.key key hkey, rfl⟩
    exact ⟨']', hends.getLast?, by decide, by decide⟩
  | none =>
    rw [Option.elim_none, List.append_nil, reading]
    cases hword : w.word with
    | none =>
      rw [h.gap_eq_nil hword hkey, Option.elim_none, List.append_nil, List.append_nil]
      exact ⟨']', ((isBracketed_ofList_iff _).1 h.level).2, by decide, by decide⟩
    | some word =>
      obtain ⟨c, hc, hlast⟩ := (h.isReading word hword).exists_getLast? (w.level ++ w.gap)
      obtain ⟨hblank, hoperator, -⟩ := (h.isReading word hword).of_mem hc
      exact ⟨c, hlast, hblank, hoperator⟩

theorem head?_text (h : w.IsWellFormed) : w.text.head? = some '[' := by
  have hhead := ((isBracketed_ofList_iff _).1 h.level).1
  simp [text, reading, hhead]

/-- No comparison is read before the bracket of the level or of the key. -/
theorem splitComparison?_text (h : w.IsWellFormed) : splitComparison? w.text = none := by
  have hbracket : ∃ front back, w.text = front ++ ']' :: back ∧
      ∀ c ∈ back, isOperatorChar c = false := by
    cases hkey : w.key with
    | some key =>
      refine ⟨w.reading ++ '&' :: '[' :: key, [], ?_, nofun⟩
      simp [text, hkey, keyText]
    | none =>
      have hlast := ((isBracketed_ofList_iff _).1 h.level).2
      refine ⟨w.level.dropLast, w.gap ++ w.word.elim [] ('.' :: ·), ?_, ?_⟩
      · rw [text, hkey, Option.elim_none, List.append_nil, reading, List.append_assoc]
        conv_lhs => rw [← List.dropLast_append_getLast? ']' hlast]
        simp
      · intro c hc
        obtain hc | hc := List.mem_append.1 hc
        · exact isOperatorChar_of_isBlank (h.gap c hc)
        · cases hword : w.word with
          | none =>
            rw [hword] at hc
            cases hc
          | some word =>
            rw [hword, Option.elim_some, List.mem_cons] at hc
            obtain rfl | hc := hc
            · decide
            · exact ((h.isReading word hword).of_mem hc).2.1
  obtain ⟨front, back, htext, hback⟩ := hbracket
  rw [htext]
  exact splitComparison?_eq_none (by decide) (by decide) (by decide) hback

end WrittenHead.IsWellFormed

/-! ## Comparisons -/

theorem isSigns_text (operator : Comparison) : IsSigns operator.text.toList := by
  cases operator <;> simp [IsSigns, Comparison.text, isOperatorChar]

theorem parseComparison_text (operator : Comparison) :
    parseComparison (String.ofList operator.text.toList) = .ok operator := by
  cases operator <;> rfl

/-- What is read as an operator is how that operator is written. -/
theorem text_of_parseComparison {signs : List Char} {operator : Comparison} (h : IsSigns signs)
    (hparse : parseComparison (String.ofList signs) = .ok operator) :
    operator.text.toList = signs := by
  have hblanks : ∀ c ∈ signs, isBlank c = false := by
    intro c hc
    by_contra hblank
    rw [Bool.not_eq_false] at hblank
    exact absurd (h.2.2 c hc) (by simp [isOperatorChar_of_isBlank hblank])
  have htrim : Text.trim (String.ofList signs) = String.ofList signs := by
    rw [Text.trim, String.toList_ofList, Text.trimChars_eq_self hblanks]
  rw [parseComparison, htrim] at hparse
  split at hparse
  · next found hfound =>
    cases hparse
    have htext := List.find?_some hfound
    rw [beq_iff_eq] at htext
    rw [htext, String.toList_ofList]
  · cases hparse

theorem filterOfPart_text {w : WrittenComparison} (h : w.IsWellFormed) :
    filterOfPart ⟨w.operator.text.toList, w.behind, w.value⟩ =
      .ok ((Filter.ofLevel ⟨""⟩).comparing w.operator
        (some (Value.infer (String.ofList w.value)))) := by
  have hempty : w.value.isEmpty = false := List.isEmpty_eq_false_iff.2 h.value.1
  refine (bind_of_eq_ok (parseComparison_text w.operator)).trans ?_
  change Except.ok _ = Except.ok _
  rw [Text.trimChars_of_isTrimmed h.trimmed, hempty]
  rfl

/-! ## Reading what is written -/

/-- The characters of a filter have no blanks at their ends. -/
theorem WrittenFilter.IsWellFormed.isTrimmed_text {w : WrittenFilter} (h : w.IsWellFormed) :
    IsTrimmed w.text := by
  refine ⟨fun c hc => ?_, fun c hc => ?_⟩
  · rw [WrittenFilter.text, List.head?_append, h.head.head?_text] at hc
    cases hc
    decide
  · cases hcomparison : w.comparison with
    | none =>
      obtain ⟨last, hlast, hblank, -⟩ := h.head.exists_getLast?_text
      rw [WrittenFilter.text, hcomparison, Option.elim_none, List.append_nil, hlast] at hc
      cases hc
      exact hblank
    | some comparison =>
      obtain ⟨-, -, ⟨hne, -⟩, htrimmed⟩ := h.comparison comparison hcomparison
      rw [WrittenFilter.text, hcomparison, Option.elim_some, WrittenComparison.text,
        ← List.append_assoc, ← List.append_assoc, List.getLast?_append_of_ne_nil _ hne] at hc
      exact htrimmed.2 c hc

/-- A comparison is taken off the end of a filter that has one. -/
theorem WrittenFilter.IsWellFormed.splitComparison?_text {w : WrittenFilter}
    {comparison : WrittenComparison} (h : w.IsWellFormed)
    (hcomparison : w.comparison = some comparison) :
    splitComparison? w.text = some (w.head.text, comparison.before,
      ⟨comparison.operator.text.toList, comparison.behind, comparison.value⟩) := by
  have hwritten := h.comparison comparison hcomparison
  obtain ⟨last, hlast, hblank, hoperator⟩ := h.head.exists_getLast?_text
  have hbefore : EndsOutside isBlank w.head.text := by
    intro c hc
    cases hlast.symm.trans hc
    exact hblank
  have hfront : EndsOutside isOperatorChar (w.head.text ++ comparison.before) := by
    intro c hc
    rw [Option.mem_def, List.getLast?_append, Option.or_eq_some_iff] at hc
    obtain hc | ⟨-, hc⟩ := hc
    · exact isOperatorChar_of_isBlank (hwritten.before c (List.mem_of_getLast? hc))
    · cases hlast.symm.trans hc
      exact hoperator
  have htext : w.text = w.head.text ++ comparison.before ++ comparison.operator.text.toList ++
      (comparison.behind ++ comparison.value) := by
    rw [WrittenFilter.text, hcomparison, Option.elim_some, WrittenComparison.text]
    simp only [List.append_assoc]
  rw [htext]
  exact splitComparison?_eq_some hbefore hfront hwritten.before (isSigns_text comparison.operator)
    hwritten.behind hwritten.value hwritten.trimmed.1

/-- A text is read as the filter that its parts write. -/
theorem parseFilter_text {w : WrittenFilter} (h : w.IsWellFormed)
    (hend : ¬ EndsInKey w.head.level) : parseFilter (String.ofList w.text) = .ok w.filter := by
  have htrim : Text.trimChars (String.ofList w.text).toList = w.text := by
    rw [String.toList_ofList, Text.trimChars_of_isTrimmed h.isTrimmed_text]
  cases hcomparison : w.comparison with
  | none =>
    have htext : w.text = w.head.text := by
      rw [WrittenFilter.text, hcomparison, Option.elim_none, List.append_nil]
    have hnone := h.head.splitComparison?_text
    rw [← htext, ← htrim] at hnone
    rw [parseFilter_of_none hnone, htrim, htext, h.head.filterOfHead_text hend _ rfl,
      WrittenFilter.filter, hcomparison]
    rfl
  | some comparison =>
    have hsome := h.splitComparison?_text hcomparison
    rw [← htrim] at hsome
    rw [parseFilter_of_some hsome]
    refine (bind_of_eq_ok (filterOfPart_text (h.comparison comparison hcomparison))).trans ?_
    rw [h.head.filterOfHead_text hend _ rfl, WrittenFilter.filter, hcomparison]
    rfl

/-! ## Writing what is read -/

/-- What is read as the head of a filter is written. -/
theorem exists_head_of_filterOfHead {s : String} {cs : List Char} {base f : Filter}
    (hbase : base.memberKeys = []) (htrimmed : IsTrimmed cs) (hascii : ∀ c ∈ cs, c.toNat < 128)
    (h : filterOfHead s cs base = .ok f) :
    ∃ w : WrittenHead, w.IsWellFormed ∧ w.text = cs ∧ f = { base with
      level := ⟨String.ofList w.level⟩
      includeAll := w.includesAll
      memberKeys := w.keys } := by
  obtain ⟨key, before, hkey, hkeyless, hcs, hisKey⟩ := exists_splitKey? cs
  obtain ⟨word, front, hword, hwordless, hbefore, hreading⟩ := exists_splitReading? before
  rw [filterOfHead_eq hbase hkey hkeyless hword hwordless] at h
  split at h
  · next hbracketed =>
    cases h
    have hhead : ∀ c ∈ front.head?, isBlank c = false := by
      intro c hc
      apply htrimmed.1
      rw [← hcs, ← hbefore, List.head?_append, List.head?_append, Option.mem_def.1 hc]
      rfl
    have hgap := Text.trimChars_append_takeTrailing hhead
    refine ⟨⟨Text.trimChars front, Text.takeTrailing isBlank front, word, key⟩, ?_, ?_, rfl⟩
    · refine ⟨hbracketed, fun c hc => Text.mem_takeTrailing hc, ?_, ?_, hisKey⟩
      · intro hnoWord hnoKey
        rw [hwordless hnoWord, hkeyless hnoKey]
        exact Text.takeTrailing_eq_nil htrimmed.2
      · intro w hw
        obtain rfl : word = some w := hw
        have hplain : ∀ c ∈ w, c.toNat < 128 := by
          intro c hc
          apply hascii
          rw [← hcs, ← hbefore]
          simp [hc]
        rw [spellsPlainly_eq_spells hplain, spellsPlainly_eq_spells hplain]
        exact (hreading w rfl).symm
    · rw [WrittenHead.text, WrittenHead.reading, hgap, hbefore, hcs]
  · cases h

/-- What is read as a comparison is a comparison of the operator that is written. -/
theorem of_filterOfPart_eq_ok {part : ComparisonPart} {base : Filter}
    (hsigns : IsSigns part.operator) (hoperand : part.operand ≠ [])
    (htrimmed : IsTrimmed part.operand)
    (h : filterOfPart part = .ok base) :
    ∃ operator : Comparison, operator.text.toList = part.operator ∧
      base = (Filter.ofLevel ⟨""⟩).comparing operator
        (some (Value.infer (String.ofList part.operand))) := by
  obtain ⟨operator, hparse, h⟩ := steps_of_bind_eq_ok h
  have hempty : part.operand.isEmpty = false := List.isEmpty_eq_false_iff.2 hoperand
  refine ⟨operator, text_of_parseComparison hsigns hparse, ?_⟩
  change Except.ok _ = Except.ok base at h
  rw [Text.trimChars_of_isTrimmed htrimmed, hempty] at h
  exact (Except.ok.inj h).symm

/-- Every ASCII text that is read as a filter is made of the parts of one. -/
theorem exists_written_of_parseFilter {s : String} {f : Filter}
    (hascii : ∀ c ∈ s.toList, c.toNat < 128) (h : parseFilter s = .ok f) :
    ∃ w : WrittenFilter, w.IsWellFormed ∧ w.text = Text.trimChars s.toList ∧ w.filter = f := by
  have htrimmed := Text.isTrimmed_trimChars s.toList
  replace hascii : ∀ c ∈ Text.trimChars s.toList, c.toNat < 128 := fun c hc =>
    hascii c (Text.mem_of_mem_trimChars hc)
  cases hsplit : splitComparison? (Text.trimChars s.toList) with
  | none =>
    rw [parseFilter_of_none hsplit] at h
    obtain ⟨head, hhead, htext, rfl⟩ := exists_head_of_filterOfHead rfl htrimmed hascii h
    refine ⟨⟨head, none⟩, ⟨hhead, nofun⟩, ?_, rfl⟩
    rw [WrittenFilter.text, Option.elim_none, List.append_nil, htext]
  | some parts =>
    obtain ⟨before, gap, part⟩ := parts
    rw [parseFilter_of_some hsplit] at h
    obtain ⟨base, hpart, h⟩ := steps_of_bind_eq_ok h
    obtain ⟨hends, hgap, hsigns, hbehind, hoperand, hfirst⟩ := of_splitComparison?_eq_some hsplit
    have hcs := splitComparison?_append hsplit
    generalize Text.trimChars s.toList = cs at htrimmed hascii hcs
    subst hcs
    have hoperandTrimmed : IsTrimmed part.operand := by
      refine ⟨hfirst, fun c hc => htrimmed.2 c ?_⟩
      rwa [List.getLast?_append_of_ne_nil _ hoperand.1]
    have hbeforeTrimmed : IsTrimmed before := by
      refine ⟨fun c hc => htrimmed.1 c ?_, hends⟩
      simp [Option.mem_def.1 hc]
    have hbeforeAscii : ∀ c ∈ before, c.toNat < 128 := fun c hc => hascii c (by simp [hc])
    obtain ⟨operator, hoperator, rfl⟩ :=
      of_filterOfPart_eq_ok hsigns hoperand.1 hoperandTrimmed hpart
    obtain ⟨head, hhead, htext, rfl⟩ :=
      exists_head_of_filterOfHead rfl hbeforeTrimmed hbeforeAscii h
    refine ⟨⟨head, some ⟨gap, operator, part.gap, part.operand⟩⟩, ⟨hhead, ?_⟩, ?_, rfl⟩
    · rintro comparison ⟨⟩
      exact ⟨hgap, hbehind, hoperand, hoperandTrimmed⟩
    · rw [WrittenFilter.text, Option.elim_some, WrittenComparison.text, htext, hoperator]
      simp only [List.append_assoc]

/-! ## Reading and writing -/

/-- **Written filters are read, and only they.** A bracketed level, optionally a word in letters of
any case, optionally a member key and optionally a comparison with a value are read as the filter
that they write, if the level does not itself end in a member key. And an ASCII text that is read as
a filter is, without the blanks at its ends, made of such parts, of which the filter is read. -/
theorem written_filters_read :
    (∀ w : WrittenFilter, w.IsWellFormed → ¬ EndsInKey w.head.level →
      parseFilter (String.ofList w.text) = .ok w.filter) ∧
    ∀ (s : String) (f : Filter), (∀ c ∈ s.toList, c.toNat < 128) → parseFilter s = .ok f →
      ∃ w : WrittenFilter, w.IsWellFormed ∧ w.text = Text.trimChars s.toList ∧ w.filter = f :=
  ⟨fun _ hwritten hend => parseFilter_text hwritten hend,
    fun _ _ hascii h => exists_written_of_parseFilter hascii h⟩

/-- The cities of a country by its key, with the aggregate member and a comparison. -/
private def writtenCountry : WrittenFilter where
  head := ⟨"[Geo].[Country]".toList, [], some "MEMBERS".toList, some "a b".toList⟩
  comparison := some ⟨" ".toList, .notEqual, [], "c, d".toList⟩

private theorem isWellFormed_writtenCountry : writtenCountry.IsWellFormed where
  head :=
    { level := by decide
      gap := nofun
      gap_eq_nil := nofun
      word := by rintro word ⟨⟩; exact .inl (by decide)
      key := by
        rintro key ⟨⟩
        exact ⟨by decide, List.forall_iff_forall_mem.1 (by decide)⟩ }
  comparison := by
    rintro comparison ⟨⟩
    refine ⟨List.forall_iff_forall_mem.1 (by decide), nofun,
      ⟨by decide, List.forall_iff_forall_mem.1 (by decide)⟩, ?_, ?_⟩
    · rintro c ⟨⟩
      decide
    · rintro c ⟨⟩
      decide

private theorem not_endsInKey_writtenCountry : ¬ EndsInKey writtenCountry.head.level := by
  rw [← splitKey?_eq_none_iff]
  rfl

/-- A text with blanks around the parts of a filter. -/
private def blanksAround : String :=
  " [Geo].[City] .children = x "

/-- Both directions, for a filter with all its parts and for a text with blanks around them. -/
theorem written_country_read :
    writtenCountry.IsWellFormed ∧ ¬ EndsInKey writtenCountry.head.level ∧
    parseFilter "[Geo].[Country].MEMBERS&[a b] <>c, d" = .ok writtenCountry.filter ∧
    (∀ c ∈ blanksAround.toList, c.toNat < 128) ∧
    ∃ f, parseFilter blanksAround = .ok f ∧ ∃ w : WrittenFilter, w.IsWellFormed ∧
      w.text = "[Geo].[City] .children = x".toList ∧ w.filter = f := by
  have hascii : ∀ c ∈ blanksAround.toList, c.toNat < 128 :=
    List.forall_iff_forall_mem.1 (by decide)
  obtain ⟨f, hparse⟩ : ∃ f, parseFilter blanksAround = .ok f := ⟨_, rfl⟩
  obtain ⟨w, hwritten, htext, hfilter⟩ := written_filters_read.2 blanksAround f hascii hparse
  exact ⟨isWellFormed_writtenCountry, not_endsInKey_writtenCountry,
    written_filters_read.1 writtenCountry isWellFormed_writtenCountry not_endsInKey_writtenCountry,
    hascii, f, hparse, w, hwritten, htext.trans (by decide), hfilter⟩

/-- The level of cities behind which an operator stands without a value. -/
private def loneOperator : WrittenFilter where
  head := ⟨"[Geo].[City]".toList, [], none, none⟩
  comparison := some ⟨" ".toList, .equal, [], []⟩

/-- An empty value neither begins nor ends with a blank, and it is not read. -/
theorem lone_operator_refused :
    loneOperator.head.IsWellFormed ∧ ¬ EndsInKey loneOperator.head.level ∧
    (∀ comparison ∈ loneOperator.comparison, (∀ c ∈ comparison.before, isBlank c = true) ∧
      (∀ c ∈ comparison.behind, isBlank c = true) ∧
      (∀ c ∈ comparison.value, isKeyChar c = true) ∧ IsTrimmed comparison.value) ∧
    String.ofList loneOperator.text = "[Geo].[City] =" ∧
    parseFilter "[Geo].[City] =" = .error (.invalidFilter (.notLevel "[Geo].[City] =")) := by
  refine ⟨⟨by decide, nofun, fun _ _ => rfl, nofun, nofun⟩, ?_, ?_, by decide, by rfl⟩
  · rw [← splitKey?_eq_none_iff]
    rfl
  · rintro comparison ⟨⟩
    exact ⟨List.forall_iff_forall_mem.1 (by decide), nofun, nofun, nofun, nofun⟩

end CubeQuery.Request
