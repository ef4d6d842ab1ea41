import CubeQuery.Mdx.Level
import CubeQuery.Proofs.Text.Separators

set_option autoImplicit false

/-!
# Selected members

The text of a selection of members by their keys, and which keys are read off it. A key stands in
the text as it is, between the name of its level and a closing bracket. A key that holds a closing
bracket, a comma and the name of the level again is printed as two members are, so that a selection
stands for whatever its keys can be cut into.

Main statement: selections have different texts if no key holds a closing bracket before a comma.
Beyond that, two selections of a level without such a bracket in its name have one text exactly if
there is one list of keys that both put together in their own way (`selections_alike_iff`).
-/

namespace CubeQuery.Mdx

open Text (Delimits)

/-! ## Members -/

/-- A member has its key in brackets, unless the key is the empty text. -/
theorem Member.text_keyed (level : Level) {key : Value} (h : key ≠ .text "") :
    (Member.keyed level (some key)).text = level.name ++ ".&[" ++ key.words ++ "]" := by
  cases key with
  | number x => rfl
  | text s =>
    rw [Member.text]
    exact h

namespace Level

/-- What stands between two keys in the text of several members. -/
def keySeparator (level : Level) : String :=
  "]" ++ "," ++ level.name ++ ".&["

theorem intercalate_texts (level : Level) {keys : List String} (hne : keys ≠ [])
    (hkeys : ∀ key ∈ keys, key ≠ "") :
    ",".intercalate (keys.map fun key => (level.member (some (.text key))).text) =
      level.name ++ ".&[" ++ level.keySeparator.intercalate keys ++ "]" := by
  induction keys with
  | nil => exact absurd rfl hne
  | cons key keys ih =>
    obtain ⟨hkey, hrest⟩ := List.forall_mem_cons.1 hkeys
    have hvalue : Value.text key ≠ .text "" := by simpa using hkey
    have htext := Member.text_keyed level hvalue
    rw [Value.words] at htext
    cases keys with
    | nil => simp [member, htext]
    | cons next keys =>
      rw [List.map_cons, String.intercalate_cons_of_ne_nil (by simp),
        String.intercalate_cons_of_ne_nil (by simp), ih (by simp) hrest, member, htext,
        keySeparator]
      simp only [String.append_assoc]

/-- The text of the members with the given keys. -/
def selectionText (level : Level) (keys : List String) : String :=
  let members := level.name ++ ".&[" ++ level.keySeparator.intercalate keys ++ "]"
  if keys.length = 1 then members else "\x7b" ++ members ++ "\x7d"

theorem select?_eq_ok (level : Level) {keys : List String} (hne : keys ≠ [])
    (hkeys : ∀ key ∈ keys, key ≠ "") :
    ∃ set, level.select? (keys.map .text) = .ok set ∧ set.text = level.selectionText keys := by
  have htexts := level.intercalate_texts hne hkeys
  cases keys with
  | nil => exact absurd rfl hne
  | cons key keys =>
    refine ⟨_, rfl, ?_⟩
    rw [selectionText, ← htexts, SetExpr.text]
    cases keys with
    | nil => simp [enumerated]
    | cons next keys => simp [enumerated, Function.comp_def]

/-- The last characters tell one member from several members. -/
theorem bracketed_ne_braced (text text' : String) : text ++ "]" ≠ "\x7b" ++ text' ++ "\x7d" := by
  intro heq
  have hlast := congrArg (fun s : String => s.toList.getLast?) heq
  simp only [String.toList_append, String.reduceToList, List.getLast?_concat, Option.some.injEq]
    at hlast
  exact absurd hlast (by decide)

theorem selectionText_eq_iff (level : Level) (first second : List String) :
    level.selectionText first = level.selectionText second ↔
      (first.length = 1 ↔ second.length = 1) ∧
        level.keySeparator.intercalate first = level.keySeparator.intercalate second := by
  simp only [selectionText]
  by_cases hfirst : first.length = 1 <;> by_cases hsecond : second.length = 1
  · simp [hfirst, hsecond]
  · simp [hfirst, hsecond, bracketed_ne_braced]
  · simp [hfirst, hsecond, (bracketed_ne_braced _ _).symm]
  · simp [hfirst, hsecond]

/-! ## Keys that stand for several members -/

/-- Keys that are put together of others: each of neighbours, with what stands between two keys. -/
def Merges (level : Level) (keys merged : List String) : Prop :=
  ∃ groups : List (List String), (∀ group ∈ groups, group ≠ []) ∧ groups.flatten = keys ∧
    groups.map level.keySeparator.intercalate = merged

theorem Merges.intercalate_eq {level : Level} {keys merged : List String}
    (h : level.Merges keys merged) :
    level.keySeparator.intercalate merged = level.keySeparator.intercalate keys := by
  obtain ⟨groups, hgroups, rfl, rfl⟩ := h
  exact Text.intercalate_flatten _ hgroups

theorem Merges.ne_nil {level : Level} {keys merged : List String} (h : level.Merges keys merged)
    (hne : merged ≠ []) : keys ≠ [] := by
  obtain ⟨groups, hgroups, rfl, rfl⟩ := h
  cases groups with
  | nil => exact absurd rfl hne
  | cons group groups => simp [hgroups group List.mem_cons_self]

/-- All keys can be cut into pieces at what stands between two keys. -/
theorem exists_merges (level : Level) (merged : List String) :
    ∃ keys, level.Merges keys merged ∧
      ∀ key ∈ keys, ¬ level.keySeparator.toList <:+: key.toList := by
  have hseparator : level.keySeparator ≠ "" := by simp [keySeparator]
  choose pieces hne hjoined hfree using Text.exists_pieces hseparator
  refine ⟨(merged.map pieces).flatten, ⟨merged.map pieces, ?_, rfl, ?_⟩, ?_⟩
  · simpa using fun key _ => hne key
  · simp [Function.comp_def, hjoined]
  · simpa using fun key merged _ hkey => hfree merged key hkey

theorem toList_keySeparator (level : Level) :
    level.keySeparator.toList = ']' :: ',' :: (level.name.toList ++ ['.', '&', '[']) := by
  simp [keySeparator]

/-- What stands between two keys is unbordered if the level's name holds no bracket before a
comma. -/
theorem unbordered_keySeparator {level : Level} (h : ¬ [']', ','] <:+: level.name.toList) :
    Text.Unbordered level.keySeparator.toList := by
  rw [toList_keySeparator]
  refine Text.unbordered_of_pair (by decide) ?_ ?_
  · rw [← List.cons_append, ← List.cons_append, List.getLast?_append_of_ne_nil _ (by simp)]
    decide
  · rw [List.infix_append_iff]
    rintro (hname | hpoint | ⟨front, back, hcut, hfront, hback⟩)
    · exact h hname
    · exact absurd hpoint (by decide)
    · rcases back with _ | ⟨c, back⟩
      · rw [List.append_nil] at hcut
        exact h (hcut ▸ hfront.isInfix)
      · -- The name is followed by a point, and no point is in a bracket before a comma.
        obtain ⟨rfl, -⟩ := List.cons_prefix_cons.1 hback
        have hmem : '.' ∈ [']', ','] := by simp [hcut]
        exact absurd hmem (by decide)

/-! ## Selections of one text -/

/-- **Selections are told apart by their texts, but for keys that hold the closing of a member.**
Non-empty lists of non-empty keys select members of any level. If no key holds a closing bracket
before a comma, the texts of two selections are the same only if the lists are. Whatever the keys
hold, selections of a level whose name holds no such bracket have the same text exactly if both
select one member or both select several, and both lists are put together of one list of keys. -/
theorem selections_alike_iff (level : Level) {first second : List String} (hfirst : first ≠ [])
    (hsecond : second ≠ []) (hkeys : ∀ key ∈ first ++ second, key ≠ "") :
    ∃ set set', level.select? (first.map .text) = .ok set ∧
      level.select? (second.map .text) = .ok set' ∧
      ((∀ key ∈ first ++ second, ¬ [']', ','] <:+: key.toList) →
        (set.text = set'.text ↔ first = second)) ∧
      (¬ [']', ','] <:+: level.name.toList →
        (set.text = set'.text ↔ (first.length = 1 ↔ second.length = 1) ∧
          ∃ keys, level.Merges keys first ∧ level.Merges keys second)) := by
  rw [List.forall_mem_append] at hkeys
  obtain ⟨set, hset, htext⟩ := level.select?_eq_ok hfirst hkeys.1
  obtain ⟨set', hset', htext'⟩ := level.select?_eq_ok hsecond hkeys.2
  refine ⟨set, set', hset, hset', ?_, ?_⟩
  · intro hplain
    rw [List.forall_mem_append] at hplain
    have hdelimits : Delimits level.keySeparator.toList fun x => ¬ [']', ','] <:+: x := by
      rw [toList_keySeparator]
      exact Text.delimits_of_pair (by decide) _
    rw [htext, htext', selectionText_eq_iff]
    constructor
    · rintro ⟨-, heq⟩
      exact hdelimits.string_intercalate_inj hfirst hsecond hplain.1 hplain.2 heq
    · rintro rfl
      exact ⟨Iff.rfl, rfl⟩
  · intro hlevel
    have hdelimits := Text.delimits_of_unbordered (unbordered_keySeparator hlevel)
    rw [htext, htext', selectionText_eq_iff]
    refine and_congr_right fun _ => ⟨fun heq => ?_, ?_⟩
    · obtain ⟨keys, hmerges, hfree⟩ := level.exists_merges first
      obtain ⟨keys', hmerges', hfree'⟩ := level.exists_merges second
      rw [hmerges.intercalate_eq, hmerges'.intercalate_eq] at heq
      obtain rfl := hdelimits.string_intercalate_inj (hmerges.ne_nil hfirst)
        (hmerges'.ne_nil hsecond) hfree hfree' heq
      exact ⟨keys, hmerges, hmerges'⟩
    · rintro ⟨keys, hmerges, hmerges'⟩
      rw [hmerges.intercalate_eq, hmerges'.intercalate_eq]

/-- The level of cities. -/
private def cities : Level :=
  ⟨"[Geo].[City]"⟩

/-- Two cities in two orders are told apart, and no list of keys can be cut into both. -/
theorem city_orders_told_apart :
    ["a", "b"] ≠ [] ∧ ["b", "a"] ≠ [] ∧ (∀ key ∈ ["a", "b"] ++ ["b", "a"], key ≠ "") ∧
    (∀ key ∈ ["a", "b"] ++ ["b", "a"], ¬ [']', ','] <:+: key.toList) ∧
    ¬ [']', ','] <:+: cities.name.toList ∧
    ∃ set set', cities.select? [.text "a", .text "b"] = .ok set ∧
      cities.select? [.text "b", .text "a"] = .ok set' ∧ set.text ≠ set'.text ∧
      ¬ ∃ keys, cities.Merges keys ["a", "b"] ∧ cities.Merges keys ["b", "a"] := by
  have hkeys : ∀ key ∈ ["a", "b"] ++ ["b", "a"], key ≠ "" := by decide
  have hplain : ∀ key ∈ ["a", "b"] ++ ["b", "a"], ¬ [']', ','] <:+: key.toList := by decide
  have hlevel : ¬ [']', ','] <:+: cities.name.toList := by decide
  obtain ⟨set, set', hset, hset', hplainly, hcut⟩ :=
    selections_alike_iff cities (List.cons_ne_nil _ _) (List.cons_ne_nil _ _) hkeys
  have hdiffer : set.text ≠ set'.text := mt (hplainly hplain).1 (by decide)
  exact ⟨List.cons_ne_nil _ _, List.cons_ne_nil _ _, hkeys, hplain, hlevel, set, set', hset, hset',
    hdiffer, fun hmerges => hdiffer ((hcut hlevel).2 ⟨Iff.rfl, hmerges⟩)⟩

/-- A key that holds the closing of a member and the beginning of the next stands for two members,
by itself and among others. -/
theorem key_stands_for_two_cities :
    ["a],[Geo].[City].&[b", "c"] ≠ ["a", "b", "c"] ∧
    (∃ set set', cities.select? [.text "a],[Geo].[City].&[b", .text "c"] = .ok set ∧
      cities.select? [.text "a", .text "b", .text "c"] = .ok set' ∧
      set.text = "\x7b[Geo].[City].&[a],[Geo].[City].&[b],[Geo].[City].&[c]\x7d" ∧
      set'.text = set.text) ∧
    ∃ set, cities.select? [.text "a],[Geo].[City].&[b"] = .ok set ∧
      set.text = (cities.member (some (.text "a"))).text ++ "," ++
        (cities.member (some (.text "b"))).text := by
  refine ⟨by decide, ⟨_, _, rfl, rfl, ?_, ?_⟩, _, rfl, ?_⟩
  · decide +kernel
  · decide +kernel
  · decide +kernel

end Level

end CubeQuery.Mdx
