import CubeQuery.Cellset.Decode
import Mathlib.Data.List.Forall2

set_option autoImplicit false

/-!
# What the reading of cellsets passes over

Servers put more into a cellset than is read from it: indentation, comments, descriptions of the
cube, further properties of members, the axis of the slicer. All of this is passed over, and so are
the namespaces of elements. Two elements whose children are the same but for such nodes, among them
and among the children of the elements below that are read for their children, stand for the same
cellset or are refused for the same fault.

The texts that are read are those that elements begin with, so nothing may be put into an element
that is read for its text.

Main statement: what is passed over makes no difference to the cellset
(`ofElement?_of_interspersed`).
-/

namespace CubeQuery

/-! ## Lists with further elements among them -/

section

variable {α β : Type} {R : α → α → Prop} {p : α → Prop}

/-- The second list has the elements of the first, each as a related one and in the same order, and
among them further elements of a kind. -/
inductive Interspersed (R : α → α → Prop) (p : α → Prop) : List α → List α → Prop where
  | nil : Interspersed R p [] []
  | keep {a b : α} {as bs : List α} : R a b → Interspersed R p as bs →
      Interspersed R p (a :: as) (b :: bs)
  | insert {b : α} {as bs : List α} : p b → Interspersed R p as bs → Interspersed R p as (b :: bs)

theorem Interspersed.of_forall₂ {as bs : List α} (h : List.Forall₂ R as bs) :
    Interspersed R p as bs := by
  induction h with
  | nil => exact .nil
  | cons hab _ ih => exact .keep hab ih

/-- Elements of a kind that none of the further ones has are related one by one. -/
theorem Interspersed.filter {as bs : List α} (h : Interspersed R p as bs) {q : α → Bool}
    (hkept : ∀ a b, R a b → q b = q a) (hfurther : ∀ b, p b → q b = false) :
    List.Forall₂ (fun a b => R a b ∧ q a = true) (as.filter q) (bs.filter q) := by
  induction h with
  | nil => exact .nil
  | @keep a b as bs hab _ ih =>
    cases hq : q a with
    | true =>
      rw [List.filter_cons_of_pos hq, List.filter_cons_of_pos ((hkept a b hab).trans hq)]
      exact .cons ⟨hab, hq⟩ ih
    | false =>
      have hb : q b = false := (hkept a b hab).trans hq
      rw [List.filter_cons_of_neg (by simp [hq]), List.filter_cons_of_neg (by simp [hb])]
      exact ih
  | @insert b as bs hb _ ih =>
    rw [List.filter_cons_of_neg (by simp [hfurther b hb])]
    exact ih

/-- A function that does not tell related elements apart takes related lists to the same list. -/
theorem map_eq_of_forall₂ {as bs : List α} (h : List.Forall₂ R as bs) {f : α → β}
    (hf : ∀ a b, R a b → f b = f a) : bs.map f = as.map f := by
  have hmap : List.Forall₂ Eq (as.map f) (bs.map f) := by
    rw [List.forall₂_map_left_iff, List.forall₂_map_right_iff]
    exact h.imp fun a b hab => (hf a b hab).symm
  rw [List.forall₂_eq_eq_eq] at hmap
  exact hmap.symm

/-- What a function that does not tell related elements apart collects from related lists is the
same. -/
theorem filterMap_eq_of_forall₂ {as bs : List α} (h : List.Forall₂ R as bs) {f : α → Option β}
    (hf : ∀ a b, R a b → f b = f a) : bs.filterMap f = as.filterMap f := by
  rw [← Function.id_comp f, ← List.filterMap_map, map_eq_of_forall₂ h hf, List.filterMap_map]

/-- A traversal that does not tell related elements apart has the same outcome on related lists. -/
theorem mapM_eq_of_forall₂ {ε : Type} {as bs : List α} (h : List.Forall₂ R as bs)
    {f : α → Except ε β} (hf : ∀ a b, R a b → f b = f a) : bs.mapM f = as.mapM f := by
  induction h with
  | nil => rfl
  | cons hab _ ih => rw [List.mapM_cons, List.mapM_cons, hf _ _ hab, ih]

theorem rel_head?_of_forall₂ {as bs : List α} (h : List.Forall₂ R as bs) :
    Option.Rel R as.head? bs.head? := by
  cases h with
  | nil => exact .none
  | cons hab _ => exact .some hab

theorem bind_eq_of_map_eq {a? b? : Option α} {f : α → Option β} (h : b?.map f = a?.map f) :
    b?.bind f = a?.bind f := by
  rw [← Function.id_comp f, ← Option.bind_map, h, Option.bind_map]

end

namespace Cellset

open Xml (Node Name Attribute)

/-! ## Decorated cellsets -/

/-- The local names of the elements that are read for their children. -/
def containerNames : List String :=
  ["Axes", "Axis", "Tuples", "Tuple", "Member", "CellData", "Cell"]

/-- The local names of the elements that are read for their texts. -/
def propertyNames : List String :=
  ["UName", "Caption", "LName", "LNum", "MEMBER_VALUE", "Value", "FmtValue"]

/-- Whether a node is passed over wherever it stands: it is no element, or one with another name
than those that are read, or an axis without a name or that of the slicer. -/
def IsPassedOver (node : Node) : Prop :=
  (∀ name ∈ containerNames ++ propertyNames, node.isCalled name = false) ∨
    node.isCalled "Axis" = true ∧
      (node.attribute? "name" = none ∨ node.attribute? "name" = some "SlicerAxis")

instance (node : Node) : Decidable (IsPassedOver node) :=
  inferInstanceAs (Decidable (_ ∨ _))

/-- The second node is the first with other namespaces of its elements, and with nodes that are
passed over among the children of those that are read for their children. -/
inductive Decorated : Node → Node → Prop where
  | refl (node : Node) : Decorated node node
  | renamed {uri uri' : Option String} {localName : String} {attributes : List Attribute}
      {children children' : List Node} : List.Forall₂ Decorated children children' →
      Decorated (.element ⟨uri, localName⟩ attributes children)
        (.element ⟨uri', localName⟩ attributes children')
  | filled {uri uri' : Option String} {localName : String} {attributes : List Attribute}
      {children children' : List Node} : localName ∈ containerNames →
      Interspersed Decorated IsPassedOver children children' →
      Decorated (.element ⟨uri, localName⟩ attributes children)
        (.element ⟨uri', localName⟩ attributes children')

namespace Decorated

variable {node node' : Node}

theorem isCalled_eq (h : Decorated node node') (name : String) :
    node'.isCalled name = node.isCalled name := by
  cases h with
  | refl => rfl
  | renamed _ => rfl
  | filled _ _ => rfl

theorem attributes_eq (h : Decorated node node') : node'.attributes = node.attributes := by
  cases h with
  | refl => rfl
  | renamed _ => rfl
  | filled _ _ => rfl

theorem attribute?_eq (h : Decorated node node') (name : String) :
    node'.attribute? name = node.attribute? name := by
  rw [Node.attribute?, Node.attribute?, h.attributes_eq]

theorem interspersed (h : Decorated node node') :
    Interspersed Decorated IsPassedOver node.children node'.children := by
  cases h with
  | refl => exact .of_forall₂ (List.forall₂_same.2 fun child _ => .refl child)
  | renamed h => exact .of_forall₂ h
  | filled _ h => exact h

/-- An element that is not read for its children begins with the same text. -/
theorem text?_eq (h : Decorated node node')
    (hother : ∀ name ∈ containerNames, node.isCalled name = false) : node'.text? = node.text? := by
  cases h with
  | refl => rfl
  | @renamed uri uri' localName attributes children children' h =>
    cases h with
    | nil => rfl
    | @cons first first' rest rest' hfirst _ =>
      -- Nothing is put in front of the first child, and a decorated text is that text.
      cases hfirst with
      | refl => cases first <;> rfl
      | renamed _ => rfl
      | filled _ _ => rfl
  | @filled uri uri' localName attributes children children' hcontainer _ =>
    have hcalled := hother localName hcontainer
    simp [Node.isCalled, Node.localName?] at hcalled

end Decorated

theorem not_isCalled_of_isCalled {node : Node} {name other : String}
    (h : node.isCalled name = true) (hne : name ≠ other) : node.isCalled other = false := by
  rw [Node.isCalled, beq_iff_eq] at h
  simp [Node.isCalled, h, hne]

/-- What is read under a name other than that of axes is not passed over. -/
theorem not_isCalled_of_isPassedOver {node : Node} (h : IsPassedOver node) {name : String}
    (hname : name ∈ containerNames ++ propertyNames) (hne : "Axis" ≠ name) :
    node.isCalled name = false := by
  rcases h with hnone | ⟨haxis, -⟩
  · exact hnone name hname
  · exact not_isCalled_of_isCalled haxis hne

/-! ## Children that are read -/

section

variable {node node' : Node}

theorem forall₂_childrenCalled
    (h : Interspersed Decorated IsPassedOver node.children node'.children) {name : String}
    (hname : name ∈ containerNames ++ propertyNames) (hne : "Axis" ≠ name) :
    List.Forall₂ (fun child child' => Decorated child child' ∧ child.isCalled name = true)
      (node.childrenCalled name) (node'.childrenCalled name) :=
  h.filter (fun _ _ hchild => hchild.isCalled_eq name)
    fun _ hchild => not_isCalled_of_isPassedOver hchild hname hne

/-- The containers with a name other than that of axes are decorated one by one. -/
theorem forall₂_containers
    (h : Interspersed Decorated IsPassedOver node.children node'.children) {name : String}
    (hname : name ∈ containerNames) (hne : "Axis" ≠ name) :
    List.Forall₂ Decorated (node.childrenCalled name) (node'.childrenCalled name) :=
  (forall₂_childrenCalled h (List.mem_append_left _ hname) hne).imp fun _ _ hchild => hchild.1

/-- The axes with a name that is not that of the slicer are decorated one by one. -/
theorem forall₂_axisNodes
    (h : Interspersed Decorated IsPassedOver node.children node'.children) :
    List.Forall₂ Decorated (axisNodes node) (axisNodes node') := by
  simp only [axisNodes, Node.childrenCalled, List.filter_filter]
  refine (h.filter (fun child child' hchild => ?_) fun child hchild => ?_).imp
    fun _ _ hchild => hchild.1
  · rw [hchild.isCalled_eq, hchild.attribute?_eq]
  · rcases hchild with hnone | ⟨-, hname | hname⟩
    · rw [hnone "Axis" (by decide), Bool.and_false]
    · rw [hname]
      rfl
    · rw [hname]
      rfl

/-- The properties with a name have the same attributes and begin with the same texts. -/
theorem forall₂_properties
    (h : Interspersed Decorated IsPassedOver node.children node'.children) {name : String}
    (hname : name ∈ propertyNames) :
    List.Forall₂
      (fun property property' =>
        property'.attributes = property.attributes ∧ property'.text? = property.text?)
      (node.childrenCalled name) (node'.childrenCalled name) := by
  have hne : "Axis" ≠ name := by
    rintro rfl
    exact absurd hname (by decide)
  -- A property is no container, so what is decorated about it is its namespaces only.
  refine (forall₂_childrenCalled h (List.mem_append_right _ hname) hne).imp ?_
  rintro property property' ⟨hproperty, hcalled⟩
  refine ⟨hproperty.attributes_eq, hproperty.text?_eq fun other hother => ?_⟩
  apply not_isCalled_of_isCalled hcalled
  rintro rfl
  exact absurd hname ((by decide : ∀ name ∈ containerNames, name ∉ propertyNames) _ hother)

end

/-! ## Members and cells -/

theorem valueOf_eq {property property' : Node}
    (h : property'.attributes = property.attributes) (raw : String) :
    valueOf property' raw = valueOf property raw := by
  rw [valueOf, valueOf, isNumeric, isNumeric, h]

section

variable {node node' : Node} (h : Interspersed Decorated IsPassedOver node.children node'.children)

include h

/-- What is made of the last property with a name by its attributes and its text is the same. -/
theorem map_lastProperty?_eq {α : Type} {name : String} (hname : name ∈ propertyNames)
    {f : Node × String → α}
    (hf : ∀ property property' raw, property'.attributes = property.attributes →
      f (property', raw) = f (property, raw)) :
    (lastProperty? node' name).map f = (lastProperty? node name).map f := by
  rw [lastProperty?, lastProperty?, ← List.getLast?_map, ← List.getLast?_map, List.map_filterMap,
    List.map_filterMap]
  refine congrArg List.getLast? (filterMap_eq_of_forall₂ (forall₂_properties h hname) ?_)
  rintro property property' ⟨hattributes, htext⟩
  rw [htext]
  cases property.text? with
  | none => rfl
  | some raw =>
    cases hraw : raw.isEmpty with
    | true => simp [hraw]
    | false => simp [hraw, hf property property' raw hattributes]

theorem lastText?_eq {name : String} (hname : name ∈ propertyNames) :
    lastText? node' name = lastText? node name :=
  map_lastProperty?_eq h hname fun _ _ _ _ => rfl

theorem lastValue_eq {name : String} (hname : name ∈ propertyNames) :
    ((lastProperty? node' name).bind fun (property, raw) => valueOf property raw) =
      (lastProperty? node name).bind fun (property, raw) => valueOf property raw :=
  bind_eq_of_map_eq <| map_lastProperty?_eq h hname
    fun _ _ raw hattributes => valueOf_eq hattributes raw

/-- What is made of the last property with a name, with a text or without one, is the same. -/
theorem map_getLast?_eq {α : Type} {name : String} (hname : name ∈ propertyNames) {f : Node → α}
    (hf : ∀ property property' : Node, property'.attributes = property.attributes →
      property'.text? = property.text? → f property' = f property) :
    (node'.childrenCalled name).getLast?.map f = (node.childrenCalled name).getLast?.map f := by
  rw [← List.getLast?_map, ← List.getLast?_map]
  refine congrArg List.getLast? (map_eq_of_forall₂ (forall₂_properties h hname) ?_)
  rintro property property' ⟨hattributes, htext⟩
  exact hf property property' hattributes htext

end

/-- A decorated member is the same member, or is refused for the same fault. -/
theorem memberOf?_eq {node node' : Node} (h : Decorated node node') :
    memberOf? node' = memberOf? node := by
  have hinner := h.interspersed
  rw [memberOf?, memberOf?, lastText?_eq hinner (by decide), lastText?_eq hinner (by decide),
    lastText?_eq hinner (by decide), lastText?_eq hinner (by decide),
    lastValue_eq hinner (by decide), h.attribute?_eq]

/-- A decorated cell is the same cell. -/
theorem cellOf_eq {node node' : Node} (h : Decorated node node') : cellOf node' = cellOf node := by
  rw [cellOf, cellOf]
  congr 1
  · refine bind_eq_of_map_eq (map_getLast?_eq h.interspersed (by decide) ?_)
    intro property property' hattributes htext
    rw [htext, valueOf_eq hattributes]
  · refine map_getLast?_eq h.interspersed (by decide) ?_
    intro property property' _ htext
    rw [htext]

theorem ordinalOf?_eq {node node' : Node} (h : Decorated node node') :
    ordinalOf? node' = ordinalOf? node := by
  rw [ordinalOf?, ordinalOf?, h.attribute?_eq]

/-! ## Axes and cell data -/

/-- A decorated axis is the same axis, or is refused for the same fault. -/
theorem axisOf?_eq {node node' : Node} (h : Decorated node node') :
    axisOf? node' = axisOf? node := by
  have htuples : List.Forall₂ Decorated
      ((node.childrenCalled "Tuples").flatMap (·.childrenCalled "Tuple"))
      ((node'.childrenCalled "Tuples").flatMap (·.childrenCalled "Tuple")) :=
    List.rel_flatMap (forall₂_containers h.interspersed (by decide) (by decide))
      fun _ _ hinner => forall₂_containers hinner.interspersed (by decide) (by decide)
  rw [axisOf?, axisOf?]
  refine congrArg (· >>= _) (mapM_eq_of_forall₂ htuples fun tuple tuple' htuple => ?_)
  rw [mapM_eq_of_forall₂ (forall₂_containers htuple.interspersed (by decide) (by decide))
    fun _ _ => memberOf?_eq]

theorem axesOf?_eq {node node' : Node} (h : Decorated node node') :
    axesOf? node' = axesOf? node := by
  rw [axesOf?, axesOf?, mapM_eq_of_forall₂ (forall₂_axisNodes h.interspersed) fun _ _ => axisOf?_eq]

theorem cellsOf?_eq {node node' : Node} (h : Decorated node node') (size : Nat) :
    cellsOf? node' size = cellsOf? node size := by
  have hcells : List.Forall₂ Decorated (node.childrenCalled "Cell") (node'.childrenCalled "Cell") :=
    forall₂_containers h.interspersed (by decide) (by decide)
  rw [cellsOf?, cellsOf?, map_eq_of_forall₂ hcells]
  intro cell cell' hcell
  rw [ordinalOf?_eq hcell, cellOf_eq hcell]

/-- The first container with a name is decorated, if there is one. -/
theorem rel_childCalled? {node node' : Node}
    (h : Interspersed Decorated IsPassedOver node.children node'.children) {name : String}
    (hname : name ∈ containerNames) (hne : "Axis" ≠ name) :
    Option.Rel Decorated (node.childCalled? name) (node'.childCalled? name) := by
  rw [Node.childCalled?, Node.childCalled?, ← List.head?_filter, ← List.head?_filter]
  exact rel_head?_of_forall₂ (forall₂_containers h hname hne)

/-- **What is not read makes no difference.** Put texts, comments, instructions, elements with names
that are not read, unnamed axes and axes of the slicer among the children of a cellset's element and
of the elements below it that are read for their children, and change the namespaces of elements as
you like: the outcome is the same cellset or the same fault. -/
theorem ofElement?_of_interspersed {root root' : Node}
    (h : Interspersed Decorated IsPassedOver root.children root'.children) :
    ofElement? root' = ofElement? root := by
  have haxes : Option.Rel Decorated (root.childCalled? "Axes") (root'.childCalled? "Axes") :=
    rel_childCalled? h (by decide) (by decide)
  have hcells : Option.Rel Decorated (root.childCalled? "CellData")
      (root'.childCalled? "CellData") :=
    rel_childCalled? h (by decide) (by decide)
  rw [ofElement?, ofElement?]
  generalize root.childCalled? "Axes" = axes?, root'.childCalled? "Axes" = axes?' at haxes
  generalize root.childCalled? "CellData" = cells?, root'.childCalled? "CellData" = cells?'
    at hcells
  cases haxes with
  | none => rfl
  | some haxes =>
    cases hcells with
    | none => rfl
    | some hcells => simp only [axesOf?_eq haxes, cellsOf?_eq hcells]

/-- An element that may be in a namespace, with attributes in none. -/
private def elementIn (uri : Option String) (name : String) (attributes : List (String × String))
    (children : List Node) : Node :=
  .element ⟨uri, name⟩ (attributes.map fun a => ⟨⟨none, a.1⟩, a.2⟩) children

/-- One measure and its value. -/
private def salesElement : Node :=
  elementIn none "root" []
    [elementIn none "Axes" [] [elementIn none "Axis" [("name", "Axis0")]
      [elementIn none "Tuples" [] [elementIn none "Tuple" []
        [elementIn none "Member" [("Hierarchy", "[Measures]")]
          [elementIn none "UName" [] [.text "[Measures].[Sales]"],
            elementIn none "LNum" [] [.text "0"]]]]]],
    elementIn none "CellData" [] [elementIn none "Cell" []
      [elementIn none "Value" [] [.text "a"]]]]

/-- The same in a namespace, indented and described, with a slicer before the axis. -/
private def describedSalesElement : Node :=
  elementIn (some "mdd") "root" []
    [.text "\n", elementIn (some "mdd") "OlapInfo" [] [elementIn none "Axes" [] []],
    elementIn (some "mdd") "Axes" []
      [.comment "slicer", elementIn none "Axis" [("name", "SlicerAxis")] [],
      elementIn none "Axis" [] [], elementIn (some "mdd") "Axis" [("name", "Axis0")]
        [.text "\n", elementIn (some "mdd") "Tuples" [] [elementIn (some "mdd") "Tuple" []
          [elementIn (some "mdd") "Member" [("Hierarchy", "[Measures]")]
            [elementIn (some "mdd") "UName" [] [.text "[Measures].[Sales]"],
            elementIn none "PARENT_LEVEL" [] [.text "1"],
            elementIn none "LNum" [] [.text "0"]], .text "\n"]]]],
    elementIn (some "mdd") "CellData" [] [.instruction "sort" "none",
      elementIn (some "mdd") "Cell" []
        [.text "\n", elementIn (some "mdd") "Value" [] [.text "a"],
        elementIn none "FORE_COLOR" [] [.text "0"]]]]

/-- The description of the cube, the slicer and the indentation make no difference. -/
theorem described_sales_same_cellset :
    Interspersed Decorated IsPassedOver salesElement.children describedSalesElement.children ∧
    ofElement? describedSalesElement = ofElement? salesElement ∧
    ofElement? salesElement = .ok ⟨[⟨[⟨[⟨true, ⟨"[Measures].[Sales]"⟩, 0, none, none⟩]⟩]⟩],
      #[⟨some (.text "a"), none⟩]⟩ := by
  have h : Interspersed Decorated IsPassedOver salesElement.children
      describedSalesElement.children := by
    refine .insert (by decide) (.insert (by decide) (.keep (.filled (by decide) ?axes)
      (.keep (.filled (by decide) ?cells) .nil)))
    case axes =>
      refine .insert (by decide) (.insert (by decide) (.insert (by decide) (.keep
        (.filled (by decide) ?_) .nil)))
      refine .insert (by decide) (.keep (.filled (by decide) (.keep (.filled (by decide) (.keep
        (.filled (by decide) ?_) (.insert (by decide) .nil))) .nil)) .nil)
      exact .keep (.renamed (.cons (.refl _) .nil)) (.insert (by decide) (.keep (.refl _) .nil))
    case cells =>
      refine .insert (by decide) (.keep (.filled (by decide) ?_) .nil)
      exact .insert (by decide) (.keep (.renamed (.cons (.refl _) .nil))
        (.insert (by decide) .nil))
  refine ⟨h, ofElement?_of_interspersed h, ?_⟩
  rfl

end Cellset

end CubeQuery
