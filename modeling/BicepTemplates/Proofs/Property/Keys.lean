import BicepTemplates.Property
import Mathlib.Data.List.Nodup

/-! # Keys that differ

Nothing is merged in a tree, so an object has no key twice only if it was put together that way. A
run of properties is put together from the keys it may have, in their order. If these differ, so do
the keys of the run, whichever of them it has.
-/

namespace BicepTemplates

mutual

/-- No object has a key twice, at any depth, and every object that is a property stands under its
key. -/
inductive Property.KeysDiffer : Property → Prop where
  | scalar (name : String) (value : Expr) : Property.KeysDiffer (.scalar name value)
  | object {name : String} {ps : List Property} (names : (ps.map Property.name).Nodup)
      (below : ∀ p ∈ ps, Property.KeysDiffer p) : Property.KeysDiffer (.object name false ps)
  | array {name : String} {es : List Element} (below : ∀ e ∈ es, Element.KeysDiffer e) :
    Property.KeysDiffer (.array name es)

inductive Element.KeysDiffer : Element → Prop where
  | scalar (value : Expr) : Element.KeysDiffer (.scalar value)
  | object {name : String} {valueOnly : Bool} {ps : List Property}
      (names : (ps.map Property.name).Nodup) (below : ∀ p ∈ ps, Property.KeysDiffer p) :
    Element.KeysDiffer (.object name valueOnly ps)
  | array {name : String} {es : List Element} (below : ∀ e ∈ es, Element.KeysDiffer e) :
    Element.KeysDiffer (.array name es)

end

/-- The properties of a body or of an object have no key twice, and none below them has. -/
structure KeysDifferIn (ps : List Property) : Prop where
  names : (ps.map Property.name).Nodup
  below : ∀ p ∈ ps, p.KeysDiffer

/-- A run of properties with some of the given keys, in their order. -/
structure KeyedBy (keys : List String) (ps : List Property) : Prop where
  names : (ps.map Property.name).Sublist keys
  below : ∀ p ∈ ps, p.KeysDiffer

section Trees

variable {name : String} {ps : List Property} {es : List Element}

@[simp] theorem Property.name_scalar (value : Expr) : (scalar name value).name = name := rfl

@[simp] theorem Property.name_text (value : String) : (text name value).name = name := rfl

@[simp] theorem Property.name_int (value : Int) : (int name value).name = name := rfl

@[simp] theorem Property.name_bool (value : Bool) : (bool name value).name = name := rfl

@[simp] theorem Property.name_bag : (bag name ps).name = name := rfl

@[simp] theorem Property.name_array : (array name es).name = name := rfl

@[simp] theorem Property.keysDiffer_scalar (value : Expr) :
    (Property.scalar name value).KeysDiffer := .scalar name value

@[simp] theorem Property.keysDiffer_text (value : String) :
    (Property.text name value).KeysDiffer := .scalar name (.text value)

@[simp] theorem Property.keysDiffer_int (value : Int) :
    (Property.int name value).KeysDiffer := .scalar name (.int value)

@[simp] theorem Property.keysDiffer_bool (value : Bool) :
    (Property.bool name value).KeysDiffer := .scalar name (.bool value)

@[simp] theorem Property.keysDiffer_bag : (Property.bag name ps).KeysDiffer ↔ KeysDifferIn ps := by
  constructor
  · rintro (_ | ⟨names, below⟩)
    exact ⟨names, below⟩
  · exact fun ⟨names, below⟩ => .object names below

@[simp] theorem Property.keysDiffer_array :
    (Property.array name es).KeysDiffer ↔ ∀ e ∈ es, e.KeysDiffer := by
  constructor
  · rintro (_ | _ | below)
    exact below
  · exact .array

@[simp] theorem Element.keysDiffer_scalar (value : Expr) : (Element.scalar value).KeysDiffer :=
  .scalar value

@[simp] theorem Element.keysDiffer_text (value : String) : (Element.text value).KeysDiffer :=
  .scalar (.text value)

@[simp] theorem Element.keysDiffer_bag : (Element.bag ps).KeysDiffer ↔ KeysDifferIn ps := by
  constructor
  · rintro (_ | ⟨names, below⟩)
    exact ⟨names, below⟩
  · exact fun ⟨names, below⟩ => .object names below

theorem Property.keysDiffer_array_map {α : Type} {f : α → Element} {xs : List α}
    (h : ∀ x, (f x).KeysDiffer) : (Property.array name (xs.map f)).KeysDiffer :=
  .array (List.forall_mem_map.mpr fun x _ => h x)

@[simp] theorem keysDifferIn_nil : KeysDifferIn [] :=
  ⟨List.nodup_nil, List.forall_mem_nil _⟩

@[simp] theorem keysDifferIn_cons {p : Property} : KeysDifferIn (p :: ps) ↔
    (∀ q ∈ ps, q.name ≠ p.name) ∧ p.KeysDiffer ∧ KeysDifferIn ps := by
  constructor
  · rintro ⟨names, below⟩
    rw [List.map_cons, List.nodup_cons, List.mem_map] at names
    obtain ⟨hp, hps⟩ := List.forall_mem_cons.mp below
    exact ⟨fun q hq hname => names.1 ⟨q, hq, hname⟩, hp, names.2, hps⟩
  · rintro ⟨hname, hp, names, below⟩
    refine ⟨List.nodup_cons.mpr ⟨?_, names⟩, List.forall_mem_cons.mpr ⟨hp, below⟩⟩
    rw [List.mem_map]
    exact fun ⟨q, hq, heq⟩ => hname q hq heq

end Trees

namespace KeyedBy

variable {key : String} {keys keys' : List String} {p : Property} {ps qs : List Property}

theorem nil : KeyedBy keys [] :=
  ⟨List.nil_sublist _, List.forall_mem_nil _⟩

theorem cons (hname : p.name = key) (hp : p.KeysDiffer) (h : KeyedBy keys ps) :
    KeyedBy (key :: keys) (p :: ps) := by
  subst hname
  exact ⟨h.names.cons_cons _, List.forall_mem_cons.mpr ⟨hp, h.below⟩⟩

theorem single (hname : p.name = key) (hp : p.KeysDiffer) : KeyedBy [key] [p] :=
  .cons hname hp .nil

theorem append (h : KeyedBy keys ps) (h' : KeyedBy keys' qs) :
    KeyedBy (keys ++ keys') (ps ++ qs) := by
  refine ⟨?_, List.forall_mem_append.mpr ⟨h.below, h'.below⟩⟩
  rw [List.map_append]
  exact h.names.append h'.names

theorem next (h : KeyedBy [key] ps) (h' : KeyedBy keys qs) : KeyedBy (key :: keys) (ps ++ qs) :=
  h.append h'

theorem toList_map {α : Type} {f : α → Property} {x : Option α} (hname : ∀ x, (f x).name = key)
    (h : ∀ x, (f x).KeysDiffer) : KeyedBy [key] (x.map f).toList := by
  cases x with
  | none => exact .nil
  | some a => exact .single (hname a) (h a)

theorem toList_map_scalar {α : Type} {f : α → Expr} {x : Option α} :
    KeyedBy [key] (x.map fun a => Property.scalar key (f a)).toList :=
  .toList_map (fun a => Property.name_scalar (f a)) fun a => .scalar key (f a)

theorem ite {c : Prop} [Decidable c] (h : KeyedBy keys ps) (h' : KeyedBy keys qs) :
    KeyedBy keys (if c then ps else qs) := by
  split
  · exact h
  · exact h'

end KeyedBy

/-- A run has no key twice if none is given twice. -/
theorem KeysDifferIn.of_keyedBy {ps : List Property} (keys : List String) (hkeys : keys.Nodup)
    (h : KeyedBy keys ps) : KeysDifferIn ps :=
  ⟨hkeys.sublist h.names, h.below⟩

end BicepTemplates
