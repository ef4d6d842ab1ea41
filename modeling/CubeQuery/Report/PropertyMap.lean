import CubeQuery.Report.Row

set_option autoImplicit false

/-!
# Property maps

A property map names the property of a record that each level expression fills. It turns rows into
JSON objects, from which records are read.

Main statement: the levels of an accepted map do not repeat (`PropertyMap.nodup_of_ofPairs?`).
-/

namespace CubeQuery.Report

/-- Properties by level expression, in the order they were declared. -/
structure PropertyMap where
  entries : List (String × String)
deriving Inhabited

namespace PropertyMap

/-- The level expressions of a map. -/
def expressions (map : PropertyMap) : List String :=
  map.entries.map Prod.fst

/-- Adds pairs of a property and an expression; an expression that is no level is passed over. -/
def addPairs? (map : PropertyMap) : List (String × String) → Except Error PropertyMap
  | [] => .ok map
  | (property, expression) :: rest =>
    if !Mdx.isBracketed expression then addPairs? map rest
    else if expression ∈ map.expressions then
      .error (.invalidExpression (.repeated expression))
    else addPairs? ⟨map.entries ++ [(expression, property)]⟩ rest

/-- The map of pairs of a property and an expression; no level may repeat. -/
def ofPairs? (pairs : List (String × String)) : Except Error PropertyMap :=
  addPairs? ⟨[]⟩ pairs

/-- The property that a level expression fills. -/
def property? (map : PropertyMap) (expression : String) : Option String :=
  (map.entries.find? fun entry => entry.1 == expression).map Prod.snd

/-- The fields of a row by property; a level that the map does not have is an error. -/
def fields? (map : PropertyMap) (row : Row) : Except Error (List (String × Json)) :=
  row.toList.foldlM
    (fun fields (expression, value) =>
      match map.property? expression with
      | some property => .ok (Json.setField property (.ofOption Value.toJson value) fields)
      | none => .error (.invalidResponse (.unexpectedLevel expression)))
    []

/-- The record that a row fills, read from its fields by `read?`. -/
def record? {α : Type} (map : PropertyMap) (read? : Json → Option α) (row : Row) :
    Except Error α := do
  match read? (.object (← map.fields? row)) with
  | some record => .ok record
  | none => .error (.invalidResponse .misfit)

/-- Adding pairs keeps the levels of a map from repeating. -/
theorem nodup_of_addPairs? {map result : PropertyMap} {pairs : List (String × String)}
    (h : map.addPairs? pairs = .ok result) (hmap : map.expressions.Nodup) :
    result.expressions.Nodup := by
  induction pairs generalizing map with
  | nil => cases h; exact hmap
  | cons pair rest ih =>
    obtain ⟨property, expression⟩ := pair
    unfold addPairs? at h
    split at h
    · exact ih h hmap
    · split at h
      · cases h
      · rename_i hnew
        refine ih h ?_
        simp only [expressions, List.map_append, List.map_cons, List.map_nil]
        exact List.nodup_append.2 ⟨hmap, by simp, by
          intro a ha b hb
          simp only [List.mem_singleton] at hb
          subst hb
          rintro rfl
          exact hnew ha⟩

/-- The levels of an accepted map do not repeat. -/
theorem nodup_of_ofPairs? {pairs : List (String × String)} {map : PropertyMap}
    (h : ofPairs? pairs = .ok map) : map.expressions.Nodup :=
  nodup_of_addPairs? h (by simp [expressions])

end PropertyMap

end CubeQuery.Report
