import BicepTemplates.Proofs.Layout.Writing
import BicepTemplates.Property

/-! # What property trees write

The text of a property or an element is a function of the tree and the level of its first line.
Every layout of the tree writes exactly this text.
-/

namespace BicepTemplates

open Layout

theorem Property.tree_induction {P : Property → Prop} {Q : Element → Prop}
    (scalar : ∀ name value, P (.scalar name value))
    (object : ∀ name valueOnly properties, (∀ p ∈ properties, P p) →
      P (.object name valueOnly properties))
    (array : ∀ name elements, (∀ e ∈ elements, Q e) → P (.array name elements))
    (scalarElement : ∀ value, Q (.scalar value))
    (objectElement : ∀ name valueOnly properties, (∀ p ∈ properties, P p) →
      Q (.object name valueOnly properties))
    (arrayElement : ∀ name elements, (∀ e ∈ elements, Q e) → Q (.array name elements)) :
    (∀ p, P p) ∧ ∀ e, Q e :=
  have nilProperty : ∀ p ∈ ([] : List Property), P p := by simp
  have nilElement : ∀ e ∈ ([] : List Element), Q e := by simp
  have consProperty : ∀ (p : Property) (ps : List Property), P p → (∀ p ∈ ps, P p) →
      ∀ q ∈ p :: ps, P q := fun _ _ hp hps => List.forall_mem_cons.mpr ⟨hp, hps⟩
  have consElement : ∀ (e : Element) (es : List Element), Q e → (∀ e ∈ es, Q e) →
      ∀ f ∈ e :: es, Q f := fun _ _ he hes => List.forall_mem_cons.mpr ⟨he, hes⟩
  ⟨@Property.rec P Q (fun ps => ∀ p ∈ ps, P p) (fun es => ∀ e ∈ es, Q e) scalar object array
      scalarElement objectElement arrayElement nilProperty consProperty nilElement consElement,
    @Element.rec P Q (fun ps => ∀ p ∈ ps, P p) (fun es => ∀ e ∈ es, Q e) scalar object array
      scalarElement objectElement arrayElement nilProperty consProperty nilElement consElement⟩

@[simp] theorem Quoted.toList_literal (s : String) :
    (Quoted.literal s).toList = Quoted.encode s.toList :=
  String.toList_ofList

def keyChars (name : String) : List Char :=
  (if isIdentifier name then name.toList else Quoted.encode name.toList) ++ [':', ' ']

mutual

def Property.chars : Property → Level → List Char
  | .scalar name value => fun _ => keyChars name ++ value.chars
  | .object name valueOnly properties => fun n =>
    (if valueOnly then [] else keyChars name) ++ blockText .object (propertyTexts properties) n
  | .array name elements => fun n =>
    keyChars name ++ blockText .array (elementTexts elements) n

def Element.chars : Element → Level → List Char
  | .scalar value => fun _ => value.chars
  | .object _ _ properties => blockText .object (propertyTexts properties)
  | .array _ elements => blockText .array (elementTexts elements)

def propertyTexts : List Property → List (Level → List Char)
  | [] => []
  | p :: rest => p.chars :: propertyTexts rest

def elementTexts : List Element → List (Level → List Char)
  | [] => []
  | e :: rest => e.chars :: elementTexts rest

end

theorem propertyTexts_eq (ps : List Property) : propertyTexts ps = ps.map Property.chars := by
  induction ps with
  | nil => rfl
  | cons p ps ih => rw [propertyTexts, ih, List.map_cons]

theorem elementTexts_eq (es : List Element) : elementTexts es = es.map Element.chars := by
  induction es with
  | nil => rfl
  | cons e es ih => rw [elementTexts, ih, List.map_cons]

theorem propertyLayouts_eq (ps : List Property) :
    propertyLayouts ps = ps.map Property.layout := by
  induction ps with
  | nil => rfl
  | cons p ps ih => rw [propertyLayouts, ih, List.map_cons]

theorem elementLayouts_eq (es : List Element) : elementLayouts es = es.map Element.layout := by
  induction es with
  | nil => rfl
  | cons e es ih => rw [elementLayouts, ih, List.map_cons]

theorem writes_key (name : String) :
    Writes (Draft.write (keyText name)) fun _ => keyChars name := by
  refine (writes_write (keyText name)).congr fun _ => ?_
  unfold keyText keyChars
  split <;> simp

theorem writes_render (e : Expr) : Writes (Draft.write e.render) fun _ => e.chars :=
  (writes_write e.render).congr fun _ => by simp [Expr.render]

theorem writes_object {ps : List Property} (h : ∀ p ∈ ps, Writes p.layout p.chars) :
    Writes (block .object (propertyLayouts ps)) (blockText .object (propertyTexts ps)) := by
  rw [propertyLayouts_eq, propertyTexts_eq]
  exact writes_block .object h

theorem writes_array {es : List Element} (h : ∀ e ∈ es, Writes e.layout e.chars) :
    Writes (block .array (elementLayouts es)) (blockText .array (elementTexts es)) := by
  rw [elementLayouts_eq, elementTexts_eq]
  exact writes_block .array h

theorem writes_layout :
    (∀ p : Property, Writes p.layout p.chars) ∧ ∀ e : Element, Writes e.layout e.chars := by
  refine Property.tree_induction ?scalar ?object ?array ?scalarElement ?objectElement ?arrayElement
  case scalar =>
    intro name value
    exact (writes_key name).trans (writes_render value)
  case object =>
    intro name valueOnly ps h
    cases valueOnly with
    | false => exact (writes_key name).trans (writes_object h)
    | true => exact writes_object h
  case array =>
    intro name es h
    exact (writes_key name).trans (writes_array h)
  case scalarElement => exact writes_render
  case objectElement => exact fun _ _ _ => writes_object
  case arrayElement => exact fun _ _ => writes_array

theorem Property.toList_renderAt (p : Property) (level : Level) :
    (p.renderAt level).toList = p.chars level :=
  (writes_layout.1 p).toList_renderAt level

end BicepTemplates
