import CubeQuery.Proofs.Mdx.Selections
import CubeQuery.Proofs.Plan.FilterAxes
import CubeQuery.Proofs.Request.FilterText

set_option autoImplicit false

/-!
# Member keys

A member key on its way from a filter's text to the axis that the filter restricts. Two things are
decided about it on the way. A key is taken off the text if it is made of the characters of keys;
any other key stays in the name of the level, and the filter restricts nothing. A key that is taken
off is inferred, so that a numeral becomes a number and is printed in the shortest form of that
number, while any other key is printed as it is written.

Main statement: which filter a level with a key is read as, and which axis the filter restricts to
which member (`member_key_restricts_axis`).
-/

namespace CubeQuery.Plan

open Mdx (Level SetExpr)
open Request (Filter Options)

/-! ## The axis of one filter -/

/-- A filter leaves a set of the given text, and as the only filter of a query it restricts the cube
to this set: by sub-select if its level is queried and by the slicer otherwise. -/
def RestrictsAxisTo (filter : Filter) (text : String) : Prop :=
  ∃ set : SetExpr, set.text = text ∧ filter.restriction? = .ok set ∧
    ∀ (levels : List Level) (options : Options), options.filters = [filter] → levels.Nodup →
      ∃ split, FilterSplit.ofOptions levels options = .ok split ∧
        split.subSelect? = .ok (if filter.level ∈ levels then some set else none) ∧
        split.slicer? = .ok (if filter.level ∈ levels then none else some set)

theorem conditionsOn_singleton {filter : Filter} (h : filter.hasCondition = true)
    {levels : List Level} (hlevels : levels.Nodup) :
    conditionsOn levels [filter] = if filter.level ∈ levels then [filter] else [] := by
  have hfilters : ([filter].map (·.level)).Nodup := List.nodup_singleton _
  have hmem := mem_conditionsOn_iff hfilters levels
  simp only [List.mem_singleton] at hmem
  split
  · next hlevel =>
    rw [← List.perm_singleton]
    apply (List.perm_ext_iff_of_nodup (nodup_conditionsOn hfilters hlevels)
      (List.nodup_singleton filter)).2
    intro other
    rw [hmem, List.mem_singleton]
    constructor
    · exact And.left
    · rintro rfl
      exact ⟨rfl, h, hlevel⟩
  · next hlevel =>
    rw [List.eq_nil_iff_forall_not_mem]
    intro other hother
    obtain ⟨rfl, -, hother⟩ := (hmem other).1 hother
    exact hlevel hother

theorem conditionsOff_singleton {filter : Filter} (h : filter.hasCondition = true)
    (levels : List Level) :
    conditionsOff levels [filter] = if filter.level ∈ levels then [] else [filter] := by
  by_cases hlevel : filter.level ∈ levels <;> simp [conditionsOff, h, hlevel]

/-- A filter with a condition restricts its axis to what it leaves of its level. -/
theorem restrictsAxisTo_restriction {filter : Filter} (h : filter.hasCondition = true) :
    RestrictsAxisTo filter filter.restriction.text := by
  refine ⟨filter.restriction, rfl, filter.restriction?_eq_ok, ?_⟩
  intro levels options hoptions hlevels
  have hfilters : (options.filters.map (·.level)).Nodup := by
    rw [hoptions]
    exact List.nodup_singleton _
  obtain ⟨split, hsplit⟩ := (ofOptions_decides levels options).1.2 ⟨hfilters, hlevels⟩
  have hbetween := eq_between_of_ofOptions hsplit
  refine ⟨split, hsplit, ?_, ?_⟩
  · rw [FilterSplit.subSelect?_eq_ok, FilterSplit.subSelect, restrictions_eq_joined, hbetween,
      queried_conditions_between hfilters, hoptions, conditionsOn_singleton h hlevels]
    split <;> rfl
  · rw [FilterSplit.slicer?_eq_ok, FilterSplit.slicer, restrictions_eq_joined, hbetween,
      remaining_conditions_between, hoptions, conditionsOff_singleton h]
    split <;> rfl

end CubeQuery.Plan

namespace CubeQuery.Request

open Mdx (Level)
open Plan (RestrictsAxisTo)

/-! ## Reading a level with a key -/

/-- A key is read off the end of a text if it holds no opening bracket. -/
theorem eq_of_append_keyText {before before' key key' : List Char} (h : '[' ∉ key)
    (h' : '[' ∉ key') (heq : before ++ keyText key = before' ++ keyText key') : key = key' := by
  have htail : ∀ (front word : List Char), '[' ∉ word →
      Text.takeTrailing (· != '[') (front ++ keyText word) = word ++ [']'] := by
    intro front word hword
    have hcut : front ++ keyText word = ((front ++ ['&']) ++ ['[']) ++ (word ++ [']']) := by
      simp [keyText]
    rw [hcut, Text.takeTrailing_append]
    · rw [Text.endsOutside_concat]
      decide
    · intro c hc
      rw [bne_iff_ne]
      rintro rfl
      obtain hc | hc := List.mem_append.1 hc
      · exact hword hc
      · exact absurd hc (by decide)
  have hkeys := htail before key h
  rw [heq, htail before' key' h'] at hkeys
  exact (List.append_cancel_right hkeys).symm

theorem isBracketed_append_keyText {level : List Char}
    (h : Mdx.isBracketed (String.ofList level) = true) (key : List Char) :
    Mdx.isBracketed (String.ofList (level ++ keyText key)) = true := by
  rw [isBracketed_ofList_iff]
  constructor
  · rw [List.head?_append, ((isBracketed_ofList_iff level).1 h).1]
    rfl
  · have hcut : level ++ keyText key = (level ++ '&' :: '[' :: key) ++ [']'] := by simp [keyText]
    rw [hcut, List.getLast?_concat]

/-- A level with a key is read as the selection of one member. -/
theorem parseFilter_of_isKey {level key : List Char}
    (hlevel : Mdx.isBracketed (String.ofList level) = true) (hend : ¬ EndsInKey level)
    (hkey : IsKey key) :
    parseFilter (String.ofList (level ++ keyText key)) =
      .ok ((Filter.ofLevel ⟨String.ofList level⟩).withMembers
        [Value.infer (String.ofList key)]) := by
  have hwritten : (⟨⟨level, [], none, some key⟩, none⟩ : WrittenFilter).IsWellFormed := by
    refine ⟨⟨hlevel, nofun, nofun, nofun, ?_⟩, nofun⟩
    rintro _ ⟨⟩
    exact hkey
  have htext : (⟨⟨level, [], none, some key⟩, none⟩ : WrittenFilter).text =
      level ++ keyText key := by
    simp [WrittenFilter.text, WrittenHead.text, WrittenHead.reading]
  have hparse := parseFilter_text hwritten hend
  rw [htext] at hparse
  exact hparse

/-- What is not made of the characters of keys stays in the name of a level. -/
theorem parseFilter_of_not_isKey {level key : List Char}
    (hlevel : Mdx.isBracketed (String.ofList level) = true) (hopen : '[' ∉ key)
    (hkey : ¬ IsKey key) :
    parseFilter (String.ofList (level ++ keyText key)) =
      .ok (Filter.ofLevel ⟨String.ofList (level ++ keyText key)⟩) := by
  have hwritten : (⟨⟨level ++ keyText key, [], none, none⟩, none⟩ : WrittenFilter).IsWellFormed :=
    ⟨⟨isBracketed_append_keyText hlevel key, nofun, fun _ _ => rfl, nofun, nofun⟩, nofun⟩
  have hend : ¬ EndsInKey (level ++ keyText key) := by
    rintro ⟨before, key', hkey', heq⟩
    have hopen' : '[' ∉ key' := fun hmem => absurd (hkey'.2 _ hmem) (by decide)
    obtain rfl := eq_of_append_keyText hopen hopen' heq
    exact hkey hkey'
  have htext : (⟨⟨level ++ keyText key, [], none, none⟩, none⟩ : WrittenFilter).text =
      level ++ keyText key := by
    simp [WrittenFilter.text, WrittenHead.text, WrittenHead.reading]
  have hparse := parseFilter_text hwritten hend
  rw [htext] at hparse
  exact hparse

/-! ## The member that is selected -/

/-- The words of an inferred key: a numeral in the shortest form of its number, or the key. -/
theorem words_infer (key : List Char) :
    (Decimal.real? (Text.trimChars key) = none →
      (Value.infer (String.ofList key)).words = String.ofList key) ∧
    ∀ x, Decimal.real? (Text.trimChars key) = some x →
      (Value.infer (String.ofList key)).words = Decimal.text x := by
  constructor
  · intro hnone
    apply Value.text_infer_of_real?_eq_none
    rwa [String.toList_ofList]
  · intro x hsome
    rw [Value.infer, String.toList_ofList, hsome, Value.words]

theorem infer_ne_empty {key : List Char} (h : key ≠ []) :
    Value.infer (String.ofList key) ≠ .text "" := by
  rw [Value.infer]
  split
  · intro heq
    cases heq
  · simpa using h

/-- **A level with a key restricts an axis to the member with this key.** The filter is on the
level, and the member's key is as it is written, except that a numeral is printed in the shortest
form of its number. That is so for keys of letters, digits and the few other characters of keys;
with any other key the whole text is the name of a level, on which the filter says nothing. -/
theorem member_key_restricts_axis {level key : List Char}
    (hlevel : Mdx.isBracketed (String.ofList level) = true) (hend : ¬ EndsInKey level)
    (hne : key ≠ []) (hopen : '[' ∉ key) :
    ((∀ c ∈ key, isKeyChar c = true) → ∃ filter selected,
      parseFilter (String.ofList (level ++ keyText key)) = .ok filter ∧
      filter.level = ⟨String.ofList level⟩ ∧
      RestrictsAxisTo filter (String.ofList level ++ ".&[" ++ selected ++ "]") ∧
      (Decimal.real? (Text.trimChars key) = none → selected = String.ofList key) ∧
      ∀ x, Decimal.real? (Text.trimChars key) = some x → selected = Decimal.text x) ∧
    ((∃ c ∈ key, isKeyChar c = false) →
      parseFilter (String.ofList (level ++ keyText key)) =
        .ok (Filter.ofLevel ⟨String.ofList (level ++ keyText key)⟩)) := by
  constructor
  · intro hchars
    refine ⟨_, (Value.infer (String.ofList key)).words,
      parseFilter_of_isKey hlevel hend ⟨hne, hchars⟩, rfl, ?_, words_infer key⟩
    rw [← Mdx.Member.text_keyed ⟨String.ofList level⟩ (infer_ne_empty hne)]
    exact Plan.restrictsAxisTo_restriction rfl
  · rintro ⟨c, hc, hout⟩
    apply parseFilter_of_not_isKey hlevel hopen
    rintro ⟨-, hkey⟩
    rw [hkey c hc] at hout
    cases hout

/-- A key of two words is as it is written in the restriction. -/
theorem key_of_two_words_restricts_axis :
    Mdx.isBracketed (String.ofList "[Geo].[City]".toList) = true ∧
    ¬ EndsInKey "[Geo].[City]".toList ∧ "New York".toList ≠ [] ∧ '[' ∉ "New York".toList ∧
    (∀ c ∈ "New York".toList, isKeyChar c = true) ∧
    ∃ filter, parseFilter "[Geo].[City]&[New York]" = .ok filter ∧
      filter.level = ⟨"[Geo].[City]"⟩ ∧ RestrictsAxisTo filter "[Geo].[City].&[New York]" := by
  have hlevel : Mdx.isBracketed (String.ofList "[Geo].[City]".toList) = true := by decide
  have hend : ¬ EndsInKey "[Geo].[City]".toList := by
    rw [← splitKey?_eq_none_iff]
    rfl
  have hne : "New York".toList ≠ [] := by decide
  have hopen : '[' ∉ "New York".toList := by decide
  have hchars : ∀ c ∈ "New York".toList, isKeyChar c = true :=
    List.forall_iff_forall_mem.1 (by decide)
  obtain ⟨filter, selected, hparse, hfilter, haxis, hplain, -⟩ :=
    (member_key_restricts_axis hlevel hend hne hopen).1 hchars
  rw [hplain (by rfl)] at haxis
  exact ⟨hlevel, hend, hne, hopen, hchars, filter, hparse, hfilter, haxis⟩

/-- A key with a character that keys do not hold selects nothing, and a numeral does not keep its
zeros. -/
theorem keys_lost_and_rewritten :
    Mdx.isBracketed "[Geo].[City]" = true ∧ ¬ EndsInKey "[Geo].[City]".toList ∧
    (∃ filter, parseFilter "[Geo].[City]&[new_york]" = .ok filter ∧
      filter.level ≠ ⟨"[Geo].[City]"⟩ ∧ filter.hasCondition = false) ∧
    ∃ filter, parseFilter "[Geo].[City]&[00501]" = .ok filter ∧
      filter.restriction.text = "[Geo].[City].&[501]" := by
  refine ⟨by decide, ?_, ⟨_, rfl, by decide +kernel, rfl⟩, _, rfl, by decide +kernel⟩
  rw [← splitKey?_eq_none_iff]
  rfl

end CubeQuery.Request
