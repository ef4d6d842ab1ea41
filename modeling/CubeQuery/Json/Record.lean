import CubeQuery.Json.Basic

set_option autoImplicit false

/-!
# Records in JSON

The fields of a model as a JSON value gives them. An object gives them by name, and names that the
model does not have are ignored. An array gives them by position, and then only a field that has a
default may be missing, from the end. A model whose fields include those of another model at the
same level is written as an object only, and what stands in it is read as `Placement.embedded`.
-/

namespace CubeQuery.Json

/-- The fields given for a model, by name. -/
structure Record where
  fields : List (String × Json)
  named : Bool

/-- The record that a JSON value gives for a model with the fields `names`. -/
def record? (names : List String) : Json → Option Record
  | object fields => some ⟨fields, true⟩
  | array items => if items.length ≤ names.length then some ⟨names.zip items, false⟩ else none
  | _ => none

/-- The record that a JSON object gives. -/
def object? : Json → Option Record
  | object fields => some ⟨fields, true⟩
  | _ => none

/-- Where the fields of a model stand: in a JSON value of their own, or among the fields of another
model. -/
inductive Placement where
  | separate
  | embedded
  deriving DecidableEq

/-- Whether JSON says nothing beside the name of a choice: null does, and within embedded fields the
object without fields does too. -/
def Placement.isBlank : Placement → Json → Bool
  | _, null => true
  | embedded, object [] => true
  | _, _ => false

/-- A choice by its name, which may also be written as the only field of an object, holding
nothing. -/
def choice? {α : Type} (place : Placement) (named? : String → Option α) : Json → Option α
  | text name => named? name
  | object [(name, content)] => if place.isBlank content then named? name else none
  | _ => none

namespace Record

/-- A field that must be given. -/
def required {α : Type} (r : Record) (name : String) (read : Json → Option α) : Option α :=
  (field? name r.fields).bind read

/-- A field that takes `default` when it is not given. -/
def defaulted {α : Type} (r : Record) (name : String) (default : α) (read : Json → Option α) :
    Option α :=
  match field? name r.fields with
  | none => some default
  | some value => read value

/-- A field that may be null or missing. -/
def optional {α : Type} (r : Record) (name : String) (read : Json → Option α) :
    Option (Option α) :=
  match field? name r.fields with
  | none => some none
  | some null => some none
  | some value => (read value).map some

/-- A field that may be null, and missing where fields go by name. -/
def nullable {α : Type} (r : Record) (name : String) (read : Json → Option α) :
    Option (Option α) :=
  match field? name r.fields with
  | none => if r.named then some none else none
  | some null => some none
  | some value => (read value).map some

end Record

end CubeQuery.Json
