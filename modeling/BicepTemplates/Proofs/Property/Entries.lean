import BicepTemplates.Proofs.Property.Keys

/-! # Looking up settings

What a body says about a setting is found under the keys that lead to it through its objects. A
list of settings stands there as an array with one element for each of them.
-/

namespace BicepTemplates

def Property.entries : Property → List Property
  | .object _ _ properties => properties
  | _ => []

def Element.entries : Element → List Property
  | .object _ _ properties => properties
  | _ => []

def withKey (key : String) (ps : List Property) : List Property :=
  ps.filter fun p => p.name = key

section Lookup

variable {key name : String} {keys : List String} {ps qs : List Property} {es : List Element}

@[simp] theorem Property.entries_bag : (bag name ps).entries = ps := rfl

@[simp] theorem Element.entries_bag : (bag ps).entries = ps := rfl

@[simp] theorem withKey_nil : withKey key [] = [] := rfl

@[simp] theorem withKey_cons {p : Property} :
    withKey key (p :: ps) = if p.name = key then p :: withKey key ps else withKey key ps := by
  simp [withKey, List.filter_cons]

@[simp] theorem withKey_append : withKey key (ps ++ qs) = withKey key ps ++ withKey key qs :=
  List.filter_append _ _

@[simp] theorem withKey_ite {c : Prop} [Decidable c] :
    withKey key (if c then ps else qs) = if c then withKey key ps else withKey key qs :=
  apply_ite ..

theorem KeyedBy.withKey_eq_nil (h : KeyedBy keys ps) (hkey : key ∉ keys) : withKey key ps = [] := by
  refine List.filter_eq_nil_iff.mpr fun p hp => ?_
  have hname := h.names.subset (List.mem_map_of_mem hp)
  simpa using fun heq : p.name = key => hkey (heq ▸ hname)

theorem KeyedBy.withKey_single (h : KeyedBy [name] ps) :
    withKey key ps = if name = key then ps else [] := by
  split
  next heq =>
    subst heq
    refine List.filter_eq_self.mpr fun p hp => ?_
    have hname := h.names.subset (List.mem_map_of_mem hp)
    simpa using hname
  next hne => exact h.withKey_eq_nil (by simpa using Ne.symm hne)

section Optional

variable {α : Type} {x : Option α}

theorem withKey_toList_map {f : α → Property} (h : ∀ a, (f a).name = name) :
    withKey key (x.map f).toList = if name = key then (x.map f).toList else [] := by
  cases x with
  | none => simp
  | some a => rw [← h a]; exact withKey_cons

@[simp] theorem withKey_toList_map_text {f : α → String} :
    withKey key (x.map fun a => Property.text name (f a)).toList =
      if name = key then (x.map fun a => Property.text name (f a)).toList else [] :=
  withKey_toList_map fun a => Property.name_text (f a)

@[simp] theorem withKey_toList_map_int {x : Option Int} :
    withKey key (x.map fun n => Property.int name n).toList =
      if name = key then (x.map fun n => Property.int name n).toList else [] :=
  withKey_toList_map Property.name_int

@[simp] theorem withKey_toList_map_bag {f : α → List Property} :
    withKey key (x.map fun a => Property.bag name (f a)).toList =
      if name = key then (x.map fun a => Property.bag name (f a)).toList else [] :=
  withKey_toList_map fun _ => Property.name_bag

end Optional

end Lookup

section Arrays

variable {α : Type} {key : String} {Shows : α → Element → Prop} {xs : List α}
  {found : List Property}

/-- What was found is an array whose elements show the entries of a list, one each and in order. -/
def Lists (key : String) (Shows : α → Element → Prop) (xs : List α) (found : List Property) :
    Prop :=
  ∃ es, found = [.array key es] ∧ List.Forall₂ Shows xs es

structure ListsUnlessEmpty (key : String) (Shows : α → Element → Prop) (xs : List α)
    (found : List Property) : Prop where
  absent : xs = [] → found = []
  present : xs ≠ [] → Lists key Shows xs found

theorem Lists.of_map {f : α → Element} (h : ∀ x, Shows x (f x)) :
    Lists key Shows xs [.array key (xs.map f)] :=
  ⟨_, rfl, List.forall₂_map_right_iff.mpr (List.forall₂_same.mpr fun x _ => h x)⟩

theorem ListsUnlessEmpty.of_map {f : α → Element} (h : ∀ x, Shows x (f x)) :
    ListsUnlessEmpty key Shows xs (if xs = [] then [] else [.array key (xs.map f)]) where
  absent hnil := if_pos hnil
  present hne := by
    rw [if_neg hne]
    exact .of_map h

end Arrays

end BicepTemplates
