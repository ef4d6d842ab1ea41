import CubeQuery.Proofs.Report.Faults
import CubeQuery.Proofs.Report.RowLevels
import Mathlib.Data.List.Forall2
import Mathlib.Data.List.Induction
import Mathlib.Data.List.Nodup

set_option autoImplicit false

/-!
# Fields of records

The JSON object from which a record is read. Its fields are set one after the other in the order of
the levels of the row, each under the property of its level, and a field that is set again is
replaced. A property map does not repeat levels, but it may name one property for several of them;
then the value of the last of these levels stays and the others are lost.

Main statement: the object holds the whole row exactly if the levels of the row have different
properties (`record_loses_nothing_iff`).
-/

namespace CubeQuery.Json

/-! ## Fields set one after the other -/

/-- A field that is not there yet is added at the end. -/
theorem setField_of_new {name : String} (value : Json) {fields : List (String × Json)}
    (h : name ∉ fields.map Prod.fst) : setField name value fields = fields ++ [(name, value)] := by
  induction fields with
  | nil => rfl
  | cons field fields ih =>
    obtain ⟨other, old⟩ := field
    rw [List.map_cons, List.mem_cons, not_or] at h
    rw [setField, if_neg (Ne.symm h.1), ih h.2]
    rfl

/-- A field that is there keeps its place. -/
theorem names_setField_of_mem {name : String} (value : Json) {fields : List (String × Json)}
    (h : name ∈ fields.map Prod.fst) :
    (setField name value fields).map Prod.fst = fields.map Prod.fst := by
  induction fields with
  | nil => exact absurd h List.not_mem_nil
  | cons field fields ih =>
    obtain ⟨other, old⟩ := field
    rw [setField]
    split
    · next heq => rw [List.map_cons, List.map_cons, heq]
    · next hne =>
      rw [List.map_cons, List.map_cons, ih]
      exact (List.mem_cons.1 h).resolve_left (Ne.symm hne)

theorem nodup_names_setField (name : String) (value : Json) {fields : List (String × Json)}
    (h : (fields.map Prod.fst).Nodup) : ((setField name value fields).map Prod.fst).Nodup := by
  by_cases hmem : name ∈ fields.map Prod.fst
  · rwa [names_setField_of_mem value hmem]
  · rw [setField_of_new value hmem, List.map_append]
    refine List.nodup_append.2 ⟨h, List.nodup_singleton _, ?_⟩
    rintro other hother _ hlast rfl
    rw [List.mem_singleton.1 hlast] at hother
    exact hmem hother

/-- The other fields keep their values. -/
theorem field?_setField_of_ne {name other : String} (h : other ≠ name) (value : Json)
    (fields : List (String × Json)) :
    field? other (setField name value fields) = field? other fields := by
  induction fields with
  | nil => simp [setField, field?, Ne.symm h]
  | cons field fields ih =>
    obtain ⟨present, old⟩ := field
    rw [setField]
    split
    · next heq => simp [field?, heq, Ne.symm h]
    · next hne =>
      by_cases hpresent : present = other
      · simp [field?, hpresent]
      · simpa [field?, hpresent] using ih

/-- The fields of an object without fields into which entries are set one after the other. -/
def setFields (entries : List (String × Json)) : List (String × Json) :=
  entries.foldl (fun fields entry => setField entry.1 entry.2 fields) []

theorem setFields_concat (entries : List (String × Json)) (entry : String × Json) :
    setFields (entries ++ [entry]) = setField entry.1 entry.2 (setFields entries) := by
  simp [setFields]

/-- No name is set twice in one object. -/
theorem nodup_names_setFields (entries : List (String × Json)) :
    ((setFields entries).map Prod.fst).Nodup := by
  induction entries using List.reverseRecOn with
  | nil => exact List.nodup_nil
  | append_singleton entries entry ih =>
    rw [setFields_concat]
    exact nodup_names_setField entry.1 entry.2 ih

/-- Entries with different names are the fields. -/
theorem setFields_of_nodup {entries : List (String × Json)} (h : (entries.map Prod.fst).Nodup) :
    setFields entries = entries := by
  induction entries using List.reverseRecOn with
  | nil => rfl
  | append_singleton entries entry ih =>
    rw [List.map_append, List.map_singleton, List.nodup_append] at h
    obtain ⟨hentries, -, hnew⟩ := h
    rw [setFields_concat, ih hentries, setField_of_new]
    exact fun hmem => hnew entry.1 hmem entry.1 (List.mem_singleton_self _) rfl

/-- The last entry with a name gives the field of this name. -/
theorem field?_setFields (name : String) (entries : List (String × Json)) :
    field? name (setFields entries) = field? name entries.reverse := by
  induction entries using List.reverseRecOn with
  | nil => rfl
  | append_singleton entries entry ih =>
    rw [setFields_concat, List.reverse_concat]
    by_cases hname : entry.1 = name
    · subst hname
      rw [field?_setField]
      simp [field?]
    · rw [field?_setField_of_ne (Ne.symm hname), ih]
      simp [field?, hname]

end CubeQuery.Json

namespace CubeQuery.Report

open Json (setFields)

namespace PropertyMap

/-! ## The fields of a row -/

/-- The value, or its absence, that a field gives. -/
def fieldValue? : Json → Option (Option Value)
  | .null => some none
  | json => (Value.ofJson? json).map some

theorem fieldValue?_ofOption {value : Option Value} (h : ∀ v ∈ value, v.isFinite = true) :
    fieldValue? (.ofOption Value.toJson value) = some value := by
  cases value with
  | none => rfl
  | some v =>
    have hread := Value.ofJson?_toJson (h v rfl)
    rw [Json.ofOption]
    unfold fieldValue?
    split
    · next hnull => simp [hnull, Value.ofJson?] at hread
    · rw [hread]
      rfl

/-- A row without numbers beyond the finite ones. -/
def IsFinite (row : Row) : Prop :=
  ∀ entry ∈ row.toList, ∀ value ∈ entry.2, value.isFinite = true

/-- A field for one entry of a row: under the property of its level and with its value. -/
structure IsFieldOf (map : PropertyMap) (entry : String × Option Value) (field : String × Json) :
    Prop where
  property : map.property? entry.1 = some field.1
  value : fieldValue? field.2 = some entry.2

/-- Fields that are one field for each entry of a row, in whatever order. -/
def HoldsAll (map : PropertyMap) (row : Row) (fields : List (String × Json)) : Prop :=
  ∃ ordered : List (String × Json), ordered.Perm fields ∧
    List.Forall₂ map.IsFieldOf row.toList ordered

/-- The properties of the levels of a row. -/
def propertiesOf (map : PropertyMap) (row : Row) : List (Option String) :=
  row.keys.map map.property?

/-- What reading a record makes of an object. -/
def readRecord {α : Type} (read? : Json → Option α) (object : Json) : Except Error α :=
  match read? object with
  | some record => .ok record
  | none => .error (.invalidResponse .misfit)

theorem record?_of_fields? {α : Type} {map : PropertyMap} {row : Row}
    {fields : List (String × Json)} (h : map.fields? row = .ok fields) (read? : Json → Option α) :
    map.record? read? row = readRecord read? (.object fields) := by
  rw [record?, h]
  rfl

/-- Entries of levels of the map give one field each, which are set one after the other. -/
theorem foldlM_setField {map : PropertyMap} {entries : List (String × Option Value)}
    (hlevels : ∀ entry ∈ entries, entry.1 ∈ map.expressions)
    (hfinite : ∀ entry ∈ entries, ∀ value ∈ entry.2, value.isFinite = true) :
    ∃ given, List.Forall₂ map.IsFieldOf entries given ∧ ∀ fields : List (String × Json),
      entries.foldlM (fun fields (expression, value) =>
          match map.property? expression with
          | some property => .ok (Json.setField property (.ofOption Value.toJson value) fields)
          | none => .error (.invalidResponse (.unexpectedLevel expression))) fields =
        (.ok (given.foldl (fun fields field => Json.setField field.1 field.2 fields) fields) :
          Except Error _) := by
  induction entries with
  | nil => exact ⟨[], .nil, fun _ => rfl⟩
  | cons entry entries ih =>
    obtain ⟨expression, value⟩ := entry
    obtain ⟨hlevel, hlevels⟩ := List.forall_mem_cons.1 hlevels
    obtain ⟨hvalue, hfinite⟩ := List.forall_mem_cons.1 hfinite
    obtain ⟨given, hgiven, hfold⟩ := ih hlevels hfinite
    cases hproperty : map.property? expression with
    | none => exact absurd hlevel ((property?_eq_none_iff map expression).1 hproperty)
    | some property =>
      refine ⟨(property, .ofOption Value.toJson value) :: given,
        .cons ⟨hproperty, fieldValue?_ofOption hvalue⟩ hgiven, fun fields => ?_⟩
      rw [List.foldlM_cons, List.foldl_cons, ← hfold]
      simp only [hproperty]
      rfl

/-- The levels of a row are those of its entries. -/
theorem forall_mem_row_iff (row : Row) (P : String → Prop) :
    (∀ name ∈ row, P name) ↔ ∀ entry ∈ row.toList, P entry.1 := by
  simp only [← Std.TreeMap.mem_keys, ← Std.TreeMap.map_fst_toList_eq_keys, List.forall_mem_map]

theorem fields?_eq_ok {map : PropertyMap} {row : Row} (hrow : ∀ name ∈ row, name ∈ map.expressions)
    (hfinite : IsFinite row) :
    ∃ given, List.Forall₂ map.IsFieldOf row.toList given ∧
      map.fields? row = .ok (setFields given) := by
  obtain ⟨given, hgiven, hfold⟩ :=
    foldlM_setField ((forall_mem_row_iff row (· ∈ map.expressions)).1 hrow) hfinite
  exact ⟨given, hgiven, hfold []⟩

theorem map_fst_of_forall₂ {map : PropertyMap} {entries : List (String × Option Value)}
    {given : List (String × Json)} (h : List.Forall₂ map.IsFieldOf entries given) :
    (given.map Prod.fst).map some = (entries.map Prod.fst).map map.property? := by
  induction h with
  | nil => rfl
  | cons hfield _ ih => rw [List.map_cons, List.map_cons, List.map_cons, List.map_cons, ih,
      hfield.property]

/-- The fields set one after the other are all fields given exactly if their names differ. -/
theorem holdsAll_setFields_iff {map : PropertyMap} {row : Row} {given : List (String × Json)}
    (h : List.Forall₂ map.IsFieldOf row.toList given) :
    map.HoldsAll row (setFields given) ↔ (map.propertiesOf row).Nodup := by
  have hsome : Function.Injective (some : String → Option String) := fun _ _ => Option.some.inj
  have hnames := map_fst_of_forall₂ h
  rw [Std.TreeMap.map_fst_toList_eq_keys, ← propertiesOf] at hnames
  rw [← hnames, List.nodup_map_iff hsome]
  constructor
  · rintro ⟨ordered, hperm, hordered⟩
    -- Whatever the order, the names are those of one object, which do not repeat.
    have hsame := (map_fst_of_forall₂ hordered).trans (map_fst_of_forall₂ h).symm
    rw [← List.map_injective_iff.2 hsome hsame]
    exact (hperm.map Prod.fst).nodup_iff.2 (Json.nodup_names_setFields given)
  · intro hnodup
    exact ⟨given, by rw [Json.setFields_of_nodup hnodup], h⟩

/-- A property is looked up among fields as it is among the entries that they are for. -/
theorem fieldValue?_field? {map : PropertyMap} {entries : List (String × Option Value)}
    {given : List (String × Json)} (h : List.Forall₂ map.IsFieldOf entries given)
    (property : String) :
    (Json.field? property given).bind fieldValue? =
      (entries.find? fun entry => map.property? entry.1 == some property).map Prod.snd := by
  induction h with
  | nil => rfl
  | @cons entry field entries given hfield _ ih =>
    by_cases hname : field.1 = property
    · simp [Json.field?, hfield.property, hname, hfield.value]
    · simpa [Json.field?, hfield.property, hname] using ih

/-! ## Maps that name a property once -/

theorem mem_entries_of_property? {map : PropertyMap} {expression property : String}
    (h : map.property? expression = some property) : (expression, property) ∈ map.entries := by
  obtain ⟨entry, hentry, rfl⟩ := Option.map_eq_some_iff.1 h
  obtain rfl : entry.1 = expression := by simpa using List.find?_some hentry
  exact List.mem_of_find?_eq_some hentry

/-- Where levels do not repeat, the property of each entry is found. -/
theorem map_property?_expressions {map : PropertyMap} (h : map.expressions.Nodup) :
    map.expressions.map map.property? = (map.entries.map Prod.snd).map some := by
  rw [expressions, List.map_map, List.map_map]
  refine List.map_congr_left fun entry hentry => ?_
  cases hproperty : map.property? entry.1 with
  | none =>
    exact absurd (List.mem_map_of_mem hentry) ((property?_eq_none_iff map entry.1).1 hproperty)
  | some property =>
    have hsame := List.inj_on_of_nodup_map h (mem_entries_of_property? hproperty) hentry rfl
    exact hproperty.trans (congrArg (some ∘ Prod.snd) hsame)

/-- The levels of a row have different properties if no property of the map repeats. -/
theorem nodup_propertiesOf {map : PropertyMap} {row : Row} (h : (map.entries.map Prod.snd).Nodup)
    (hrow : ∀ name ∈ row, name ∈ map.expressions) : (map.propertiesOf row).Nodup := by
  refine List.Nodup.map_on ?_ row.nodup_keys
  intro name hname other _ heq
  have hlevel := hrow name (Std.TreeMap.mem_keys.1 hname)
  cases hproperty : map.property? name with
  | none => exact absurd hlevel ((property?_eq_none_iff map name).1 hproperty)
  | some property =>
    rw [hproperty] at heq
    have hsame := List.inj_on_of_nodup_map h (mem_entries_of_property? hproperty)
      (mem_entries_of_property? heq.symm) rfl
    exact congrArg Prod.fst hsame

/-- The row of all levels of a map, without values. -/
def blankRow (map : PropertyMap) : Row :=
  map.expressions.foldl (fun row name => row.insert name none) ∅

theorem keys_blankRow_perm {map : PropertyMap} (h : map.expressions.Nodup) :
    map.blankRow.keys.Perm map.expressions := by
  rw [List.perm_ext_iff_of_nodup map.blankRow.nodup_keys h]
  intro name
  rw [Std.TreeMap.mem_keys, blankRow,
    mem_foldl_insert_iff (fun name : String => name) (fun _ => (none : Option Value))]
  simp

theorem isFinite_blankRow (map : PropertyMap) : IsFinite map.blankRow := by
  rintro ⟨name, value⟩ hentry v hv
  rw [Std.TreeMap.mem_toList_iff_getElem?_eq_some, blankRow,
    getElem?_foldl_insert (fun name : String => name) (fun _ => (none : Option Value)),
    Std.TreeMap.getElem?_emptyc, Option.or_none, Option.map_eq_some_iff] at hentry
  obtain ⟨-, -, rfl⟩ := hentry
  exact nomatch hv

/-- **A record loses nothing where properties differ.** For every row of finite values at levels of
an accepted map there is the object that the record is read from. Each property has the value of the
last level that it is named for, so the object holds the whole row, one field for each entry,
exactly if the levels of the row have different properties; and this is so for every such row
exactly if the map names no property twice. -/
theorem record_loses_nothing_iff {pairs : List (String × String)} {map : PropertyMap}
    (hmap : ofPairs? pairs = .ok map) :
    (∀ row : Row, (∀ name ∈ row, name ∈ map.expressions) → IsFinite row →
      ∃ fields, map.fields? row = .ok fields ∧
        (∀ (α : Type) (read? : Json → Option α),
          map.record? read? row = readRecord read? (.object fields)) ∧
        (∀ property, (Json.field? property fields).bind fieldValue? =
          (row.toList.reverse.find? fun entry => map.property? entry.1 == some property).map
            Prod.snd) ∧
        (map.HoldsAll row fields ↔ (map.propertiesOf row).Nodup)) ∧
    ((∀ (row : Row) (fields : List (String × Json)), (∀ name ∈ row, name ∈ map.expressions) →
        IsFinite row → map.fields? row = .ok fields → map.HoldsAll row fields) ↔
      (map.entries.map Prod.snd).Nodup) := by
  have hnodup := nodup_of_ofPairs? hmap
  refine ⟨fun row hrow hfinite => ?_, fun hall => ?_,
    fun hproperties row fields hrow hfinite hfields => ?_⟩
  · obtain ⟨given, hgiven, hfields⟩ := fields?_eq_ok hrow hfinite
    refine ⟨setFields given, hfields, fun α read? => record?_of_fields? hfields read?,
      fun property => ?_, holdsAll_setFields_iff hgiven⟩
    rw [Json.field?_setFields]
    exact fieldValue?_field? (List.forall₂_reverse_iff.2 hgiven) property
  · have hrow : ∀ name ∈ map.blankRow, name ∈ map.expressions := fun name hname =>
      (keys_blankRow_perm hnodup).mem_iff.1 (Std.TreeMap.mem_keys.2 hname)
    obtain ⟨given, hgiven, hfields⟩ := fields?_eq_ok hrow (isFinite_blankRow map)
    have hdifferent :=
      (holdsAll_setFields_iff hgiven).1 (hall _ _ hrow (isFinite_blankRow map) hfields)
    rw [propertiesOf, ((keys_blankRow_perm hnodup).map _).nodup_iff,
      map_property?_expressions hnodup] at hdifferent
    exact hdifferent.of_map
  · obtain ⟨given, hgiven, hgivenFields⟩ := fields?_eq_ok hrow hfinite
    cases hfields.symm.trans hgivenFields
    exact (holdsAll_setFields_iff hgiven).2 (nodup_propertiesOf hproperties hrow)

/-- A city and the sales there. -/
private def citySales (sales : Float) : Row :=
  ((∅ : Row).insert "[Geo].[City]" (some (.text "Rome"))).insert "[Measures].[Sales]"
    (some (.number sales))

/-- A city and its country. -/
private def cityAndCountry : Row :=
  ((∅ : Row).insert "[Geo].[City]" (some (.text "Rome"))).insert "[Geo].[Country]"
    (some (.text "Italy"))

/-- The record of a city and its sales has both, each under its property. -/
theorem city_sales_lose_nothing :
    ∃ map fields, ofPairs? [("city", "[Geo].[City]"), ("label", "City"),
        ("sales", "[Measures].[Sales]")] = .ok map ∧
      (∀ name ∈ citySales 3.5, name ∈ map.expressions) ∧ IsFinite (citySales 3.5) ∧
      map.fields? (citySales 3.5) = .ok fields ∧ map.HoldsAll (citySales 3.5) fields := by
  have hentries : (citySales 3.5).toList =
      [("[Geo].[City]", some (.text "Rome")), ("[Measures].[Sales]", some (.number 3.5))] := rfl
  have hmap : ofPairs? [("city", "[Geo].[City]"), ("label", "City"),
        ("sales", "[Measures].[Sales]")] =
      .ok ⟨[("[Geo].[City]", "city"), ("[Measures].[Sales]", "sales")]⟩ := rfl
  have hlevels : ∀ name ∈ citySales 3.5, name ∈ PropertyMap.expressions
      ⟨[("[Geo].[City]", "city"), ("[Measures].[Sales]", "sales")]⟩ := by
    rw [forall_mem_row_iff, hentries]
    simp [expressions]
  have hfinite : IsFinite (citySales 3.5) := by
    have hnumber : Float.isFinite 3.5 = true := by decide
    rw [IsFinite, hentries]
    simpa [Value.isFinite] using hnumber
  obtain ⟨hrecord, hall⟩ := record_loses_nothing_iff hmap
  obtain ⟨fields, hfields, -⟩ := hrecord (citySales 3.5) hlevels hfinite
  exact ⟨_, fields, hmap, hlevels, hfinite, hfields,
    hall.2 (by decide) (citySales 3.5) fields hlevels hfinite hfields⟩

/-- A map that names one property for two levels is accepted, and a record has only one of them. -/
theorem city_overwritten_by_country :
    ∃ map fields, ofPairs? [("name", "[Geo].[City]"), ("name", "[Geo].[Country]")] = .ok map ∧
      (∀ name ∈ cityAndCountry, name ∈ map.expressions) ∧ IsFinite cityAndCountry ∧
      map.fields? cityAndCountry = .ok fields ∧ fields = [("name", .text "Italy")] ∧
      ¬ map.HoldsAll cityAndCountry fields := by
  have hentries : cityAndCountry.toList =
      [("[Geo].[City]", some (.text "Rome")), ("[Geo].[Country]", some (.text "Italy"))] := rfl
  refine ⟨_, _, rfl, ?_, ?_, by rw [fields?, hentries]; rfl, rfl, ?_⟩
  · rw [forall_mem_row_iff, hentries]
    simp [expressions]
  · rw [IsFinite, hentries]
    simp [Value.isFinite]
  · rintro ⟨ordered, hperm, hordered⟩
    have hlength := hordered.length_eq.trans hperm.length_eq
    rw [hentries] at hlength
    exact absurd hlength (by decide)

end PropertyMap

end CubeQuery.Report
