import BicepTemplates.Property

/-! # Where a key stands

A key may stand anywhere in a tree, also more than once. Each of its places is given by the property
that stands there and by the keys this property is nested under.
-/

namespace BicepTemplates

/-- A property, and the keys it is nested under, outermost first. -/
structure Property.Place where
  under : List String
  property : Property

def Property.Place.nested (name : String) (p : Property.Place) : Property.Place :=
  { p with under := name :: p.under }

mutual

def Property.places (key : String) : Property → List Property.Place
  | .scalar name value => if name = key then [⟨[], .scalar name value⟩] else []
  | .object name valueOnly properties =>
    (if name = key then [⟨[], .object name valueOnly properties⟩] else []) ++
      (placesIn key properties).map (Property.Place.nested name)
  | .array name elements =>
    (if name = key then [⟨[], .array name elements⟩] else []) ++
      (placesAmong key elements).map (Property.Place.nested name)

def Element.places (key : String) : Element → List Property.Place
  | .scalar _ => []
  | .object _ _ properties => placesIn key properties
  | .array _ elements => placesAmong key elements

def placesIn (key : String) : List Property → List Property.Place
  | [] => []
  | p :: rest => p.places key ++ placesIn key rest

def placesAmong (key : String) : List Element → List Property.Place
  | [] => []
  | e :: rest => e.places key ++ placesAmong key rest

end

section Places

variable {key name : String} {ps qs : List Property} {es : List Element}

@[simp] theorem placesIn_nil : placesIn key [] = [] := rfl

@[simp] theorem placesIn_cons (p : Property) :
    placesIn key (p :: ps) = p.places key ++ placesIn key ps := rfl

@[simp] theorem placesIn_append : placesIn key (ps ++ qs) = placesIn key ps ++ placesIn key qs := by
  induction ps with
  | nil => rfl
  | cons p ps ih => rw [List.cons_append, placesIn_cons, placesIn_cons, ih, List.append_assoc]

@[simp] theorem placesIn_ite (c : Prop) [Decidable c] :
    placesIn key (if c then ps else qs) = if c then placesIn key ps else placesIn key qs :=
  apply_ite ..

theorem placesIn_eq_nil (h : ∀ p ∈ ps, p.places key = []) : placesIn key ps = [] := by
  induction ps with
  | nil => rfl
  | cons p ps ih =>
    obtain ⟨hp, hps⟩ := List.forall_mem_cons.mp h
    rw [placesIn_cons, hp, ih hps, List.append_nil]

theorem placesIn_toList_map_eq_nil {α : Type} {f : α → Property} (h : ∀ x, (f x).places key = [])
    (x : Option α) : placesIn key (x.map f).toList = [] :=
  placesIn_eq_nil (by cases x <;> simp [h])

@[simp] theorem placesAmong_nil : placesAmong key [] = [] := rfl

@[simp] theorem placesAmong_cons (e : Element) :
    placesAmong key (e :: es) = e.places key ++ placesAmong key es := rfl

theorem placesAmong_map_eq_nil {α : Type} {f : α → Element} (h : ∀ x, (f x).places key = [])
    (xs : List α) : placesAmong key (xs.map f) = [] := by
  induction xs with
  | nil => rfl
  | cons x xs ih => rw [List.map_cons, placesAmong_cons, h, ih, List.append_nil]

@[simp] theorem places_scalar (value : Expr) : (Property.scalar name value).places key =
    if name = key then [⟨[], .scalar name value⟩] else [] := rfl

@[simp] theorem places_text (value : String) : (Property.text name value).places key =
    if name = key then [⟨[], .text name value⟩] else [] := rfl

@[simp] theorem places_int (value : Int) : (Property.int name value).places key =
    if name = key then [⟨[], .int name value⟩] else [] := rfl

@[simp] theorem places_bool (value : Bool) : (Property.bool name value).places key =
    if name = key then [⟨[], .bool name value⟩] else [] := rfl

@[simp] theorem places_bag : (Property.bag name ps).places key =
    (if name = key then [⟨[], .bag name ps⟩] else []) ++
      (placesIn key ps).map (Property.Place.nested name) := rfl

@[simp] theorem places_array : (Property.array name es).places key =
    (if name = key then [⟨[], .array name es⟩] else []) ++
      (placesAmong key es).map (Property.Place.nested name) := rfl

@[simp] theorem Element.places_scalar (value : Expr) : (Element.scalar value).places key = [] := rfl

@[simp] theorem Element.places_text (value : String) : (Element.text value).places key = [] := rfl

@[simp] theorem Element.places_bag : (Element.bag ps).places key = placesIn key ps := rfl

end Places

end BicepTemplates
