import BicepTemplates.Manifest.Document
import BicepTemplates.Proofs.Document.Outcome

/-! # Values without tags

A value without tags is either refused or mirrored: mappings by objects with the same keys,
sequences by arrays, and leaves by literals, all in the same order. What it is mirrored by gives it
back. Since the text of a body determines the properties, no two mappings share one.
-/

namespace BicepTemplates

open Yaml (Value)

namespace Yaml.Value

mutual

/-- No tag stands at the value or at any part of it. -/
def isTagFree : Value → Bool
  | .tagged .. => false
  | .seq items => itemsTagFree items
  | .map entries => entriesTagFree entries
  | _ => true

def itemsTagFree : List Value → Bool
  | [] => true
  | v :: rest => v.isTagFree && itemsTagFree rest

def entriesTagFree : List (Value × Value) → Bool
  | [] => true
  | (key, v) :: rest => key.isTagFree && v.isTagFree && entriesTagFree rest

end

mutual

/-- Every key is a string, and no leaf is null, a double or a whole number beyond 64 bits with the
sign. -/
def isPlain : Value → Bool
  | .null => false
  | .bool _ => true
  | .int n => -0x8000000000000000 ≤ n && n < 0x8000000000000000
  | .double _ => false
  | .text _ => true
  | .seq items => itemsPlain items
  | .map entries => entriesPlain entries
  | .tagged .. => false

def itemsPlain : List Value → Bool
  | [] => true
  | v :: rest => v.isPlain && itemsPlain rest

def entriesPlain : List (Value × Value) → Bool
  | [] => true
  | (.text _, v) :: rest => v.isPlain && entriesPlain rest
  | _ :: _ => false

end

theorem itemsTagFree_cons {v : Value} {rest : List Value} :
    itemsTagFree (v :: rest) = true ↔ v.isTagFree = true ∧ itemsTagFree rest = true := by
  rw [itemsTagFree, Bool.and_eq_true]

theorem entriesTagFree_cons {key v : Value} {rest : List (Value × Value)} :
    entriesTagFree ((key, v) :: rest) = true ↔
      key.isTagFree = true ∧ v.isTagFree = true ∧ entriesTagFree rest = true := by
  rw [entriesTagFree, Bool.and_eq_true, Bool.and_eq_true, and_assoc]

theorem entriesPlain_cons {key v : Value} {rest : List (Value × Value)} :
    entriesPlain ((key, v) :: rest) = true ↔
      (∃ name, key = .text name) ∧ v.isPlain = true ∧ entriesPlain rest = true := by
  cases key <;> simp [entriesPlain]

end Yaml.Value

/-- The value a literal stands for. -/
def Expr.value? : Expr → Option Value
  | .text s => some (.text s)
  | .int n => if Conversion.isLiteral n then some (.int n) else none
  | .bool b => some (.bool b)
  | _ => none

mutual

/-- The value below the key, if the tree has the shape of one: objects under their keys, and
nothing named inside an array. -/
def Property.value? : Property → Option Value
  | .scalar _ e => e.value?
  | .object _ false properties => (propertyEntries? properties).map .map
  | .object _ true _ => none
  | .array _ elements => (elementItems? elements).map .seq

def Element.value? : Element → Option Value
  | .scalar e => e.value?
  | .object "" true properties => (propertyEntries? properties).map .map
  | .object .. => none
  | .array "" elements => (elementItems? elements).map .seq
  | .array .. => none

def propertyEntries? : List Property → Option (List (Value × Value))
  | [] => some []
  | p :: rest => do
    let v ← p.value?
    return (.text p.name, v) :: (← propertyEntries? rest)

def elementItems? : List Element → Option (List Value)
  | [] => some []
  | e :: rest => do
    let v ← e.value?
    return v :: (← elementItems? rest)

end

section Shapes

variable {e : Expr} {p : Property} {x : Element} {v : Value}

theorem Expr.value?_ne_map {entries : List (Value × Value)} : e.value? ≠ some (.map entries) := by
  fun_cases Expr.value? e <;> simp

theorem Expr.value?_ne_seq {items : List Value} : e.value? ≠ some (.seq items) := by
  fun_cases Expr.value? e <;> simp

theorem Property.value?_cases (h : p.value? = some v) :
    (∃ e, p = .scalar p.name e ∧ e.value? = some v) ∨
    (∃ ps entries, p = .bag p.name ps ∧ propertyEntries? ps = some entries ∧ v = .map entries) ∨
    ∃ es items, p = .array p.name es ∧ elementItems? es = some items ∧ v = .seq items := by
  cases p with
  | scalar name e => exact .inl ⟨e, rfl, h⟩
  | object name valueOnly ps =>
    cases valueOnly with
    | true => exact nomatch h
    | false =>
      obtain ⟨entries, hps, rfl⟩ := Option.map_eq_some_iff.mp h
      exact .inr (.inl ⟨ps, entries, rfl, hps, rfl⟩)
  | array name es =>
    obtain ⟨items, hes, rfl⟩ := Option.map_eq_some_iff.mp h
    exact .inr (.inr ⟨es, items, rfl, hes, rfl⟩)

theorem Element.value?_cases (h : x.value? = some v) :
    (∃ e, x = .scalar e ∧ e.value? = some v) ∨
    (∃ ps entries, x = .bag ps ∧ propertyEntries? ps = some entries ∧ v = .map entries) ∨
    ∃ es items, x = .array "" es ∧ elementItems? es = some items ∧ v = .seq items := by
  unfold Element.value? at h
  split at h
  · next e => exact .inl ⟨e, rfl, h⟩
  · next ps =>
    obtain ⟨entries, hps, rfl⟩ := Option.map_eq_some_iff.mp h
    exact .inr (.inl ⟨ps, entries, rfl, hps, rfl⟩)
  · exact nomatch h
  · next es =>
    obtain ⟨items, hes, rfl⟩ := Option.map_eq_some_iff.mp h
    exact .inr (.inr ⟨es, items, rfl, hes, rfl⟩)
  · exact nomatch h

theorem propertyEntries?_eq_nil_iff {ps : List Property} :
    propertyEntries? ps = some [] ↔ ps = [] := by
  cases ps with
  | nil => simp [propertyEntries?]
  | cons p ps => simp [propertyEntries?, Option.bind_eq_some_iff]

theorem propertyEntries?_eq_cons_iff {ps : List Property} {key : Value}
    {rest : List (Value × Value)} : propertyEntries? ps = some ((key, v) :: rest) ↔
      ∃ p ps', ps = p :: ps' ∧ key = .text p.name ∧ p.value? = some v ∧
        propertyEntries? ps' = some rest := by
  cases ps with
  | nil => simp [propertyEntries?]
  | cons p ps =>
    simp only [propertyEntries?, bind, pure, Option.bind_eq_some_iff]
    constructor
    · rintro ⟨v, hp, rest, hps, h⟩
      obtain ⟨hentry, rfl⟩ := List.cons.inj (Option.some.inj h)
      obtain ⟨rfl, rfl⟩ := Prod.mk.inj hentry
      exact ⟨p, ps, rfl, rfl, hp, hps⟩
    · rintro ⟨p, ps, h, rfl, hp, hps⟩
      obtain ⟨rfl, rfl⟩ := List.cons.inj h
      exact ⟨v, hp, rest, hps, rfl⟩

theorem elementItems?_eq_nil_iff {es : List Element} : elementItems? es = some [] ↔ es = [] := by
  cases es with
  | nil => simp [elementItems?]
  | cons e es => simp [elementItems?, Option.bind_eq_some_iff]

theorem elementItems?_eq_cons_iff {es : List Element} {rest : List Value} :
    elementItems? es = some (v :: rest) ↔
      ∃ x es', es = x :: es' ∧ x.value? = some v ∧ elementItems? es' = some rest := by
  cases es with
  | nil => simp [elementItems?]
  | cons x es =>
    simp only [elementItems?, bind, pure, Option.bind_eq_some_iff]
    constructor
    · rintro ⟨v, hx, rest, hes, h⟩
      obtain ⟨rfl, rfl⟩ := List.cons.inj (Option.some.inj h)
      exact ⟨x, es, rfl, hx, hes⟩
    · rintro ⟨x, es, h, hx, hes⟩
      obtain ⟨rfl, rfl⟩ := List.cons.inj h
      exact ⟨v, hx, rest, hes, rfl⟩

end Shapes

namespace Conversion

variable {place : Address} {name : String} {v : Value}

theorem expression_eq_ok_iff (hv : v.isTagFree = true) {e : Expr} :
    expression place v = .ok e ↔ e.value? = some v := by
  constructor
  · intro h
    cases v with
    | bool b => obtain rfl := Except.ok.inj h; rfl
    | text s => obtain rfl := Except.ok.inj h; rfl
    | int n =>
      rw [expression, integer] at h
      split at h
      · next hn =>
        obtain rfl := Except.ok.inj h
        rw [Expr.value?, if_pos hn]
      · exact nomatch h
    | tagged tag v => exact nomatch hv
    | _ => exact nomatch h
  · intro h
    cases e with
    | text s => obtain rfl := Option.some.inj h; rfl
    | bool b => obtain rfl := Option.some.inj h; rfl
    | int n =>
      rw [Expr.value?] at h
      split at h
      · next hn =>
        obtain rfl := Option.some.inj h
        rw [expression, integer, if_pos hn]
      · exact nomatch h
    | _ => exact nomatch h

theorem keyName_eq_ok_iff {key : Value} (hkey : key.isTagFree = true) :
    keyName place key = .ok name ↔ key = .text name := by
  unfold keyName Value.string?
  cases key with
  | text s => simp [Value.untagged]
  | tagged tag v => exact nomatch hkey
  | _ => simp [Value.untagged, refuse]

theorem property_scalar (hmap : ∀ entries, v ≠ .map entries) (hseq : ∀ items, v ≠ .seq items) :
    property place name v = do return .scalar name (← expression place v) := by
  rw [property]
  · exact hmap
  · exact hseq

theorem element_scalar (hmap : ∀ entries, v ≠ .map entries) (hseq : ∀ items, v ≠ .seq items) :
    element place v = do return .scalar (← expression place v) := by
  rw [element]
  · exact hmap
  · exact hseq

theorem property_scalar_eq_ok_iff (hv : v.isTagFree = true) (hmap : ∀ entries, v ≠ .map entries)
    (hseq : ∀ items, v ≠ .seq items) {p : Property} :
    property place name v = .ok p ↔ p.name = name ∧ p.value? = some v := by
  rw [property_scalar hmap hseq, bind_eq_ok_iff]
  simp only [expression_eq_ok_iff hv]
  constructor
  · rintro ⟨e, he, hp⟩
    obtain rfl := Except.ok.inj hp
    exact ⟨rfl, he⟩
  · rintro ⟨rfl, hp⟩
    rcases Property.value?_cases hp with ⟨e, hpe, he⟩ | ⟨_, entries, -, -, rfl⟩ |
      ⟨_, items, -, -, rfl⟩
    · exact ⟨e, he, congrArg Except.ok hpe.symm⟩
    · exact absurd rfl (hmap entries)
    · exact absurd rfl (hseq items)

theorem element_scalar_eq_ok_iff (hv : v.isTagFree = true) (hmap : ∀ entries, v ≠ .map entries)
    (hseq : ∀ items, v ≠ .seq items) {x : Element} :
    element place v = .ok x ↔ x.value? = some v := by
  rw [element_scalar hmap hseq, bind_eq_ok_iff]
  simp only [expression_eq_ok_iff hv]
  constructor
  · rintro ⟨e, he, hx⟩
    obtain rfl := Except.ok.inj hx
    exact he
  · intro hx
    rcases Element.value?_cases hx with ⟨e, rfl, he⟩ | ⟨_, entries, -, -, rfl⟩ |
      ⟨_, items, -, -, rfl⟩
    · exact ⟨e, he, rfl⟩
    · exact absurd rfl (hmap entries)
    · exact absurd rfl (hseq items)

mutual

/-- A property is made of a value without tags exactly if it mirrors the value under its key. -/
theorem property_eq_ok_iff : ∀ (v : Value) {place : Address} {name : String} {p : Property},
    v.isTagFree = true → (property place name v = .ok p ↔ p.name = name ∧ p.value? = some v)
  | .map entries, place, name, p, hv => by
    rw [property, bind_eq_ok_iff]
    simp only [properties_eq_ok_iff entries hv]
    constructor
    · rintro ⟨ps, hps, hp⟩
      obtain rfl := Except.ok.inj hp
      exact ⟨rfl, congrArg (Option.map Value.map) hps⟩
    · rintro ⟨rfl, hp⟩
      rcases Property.value?_cases hp with ⟨e, -, he⟩ | ⟨ps, _, hpp, hps, heq⟩ | ⟨_, _, -, -, hne⟩
      · exact absurd he Expr.value?_ne_map
      · obtain rfl := Value.map.inj heq
        exact ⟨ps, hps, congrArg Except.ok hpp.symm⟩
      · exact nomatch hne
  | .seq items, place, name, p, hv => by
    rw [property, bind_eq_ok_iff]
    simp only [elements_eq_ok_iff items hv]
    constructor
    · rintro ⟨es, hes, hp⟩
      obtain rfl := Except.ok.inj hp
      exact ⟨rfl, congrArg (Option.map Value.seq) hes⟩
    · rintro ⟨rfl, hp⟩
      rcases Property.value?_cases hp with ⟨e, -, he⟩ | ⟨_, _, -, -, hne⟩ | ⟨es, _, hpp, hes, heq⟩
      · exact absurd he Expr.value?_ne_seq
      · exact nomatch hne
      · obtain rfl := Value.seq.inj heq
        exact ⟨es, hes, congrArg Except.ok hpp.symm⟩
  | .null, _, _, _, hv => property_scalar_eq_ok_iff hv nofun nofun
  | .bool _, _, _, _, hv => property_scalar_eq_ok_iff hv nofun nofun
  | .int _, _, _, _, hv => property_scalar_eq_ok_iff hv nofun nofun
  | .double _, _, _, _, hv => property_scalar_eq_ok_iff hv nofun nofun
  | .text _, _, _, _, hv => property_scalar_eq_ok_iff hv nofun nofun
  | .tagged .., _, _, _, hv => nomatch hv

theorem properties_eq_ok_iff : ∀ (entries : List (Value × Value)) {place : Address}
    {ps : List Property}, Value.entriesTagFree entries = true →
    (properties place entries = .ok ps ↔ propertyEntries? ps = some entries)
  | [], place, ps, _ => by
    rw [properties, propertyEntries?_eq_nil_iff]
    simp [eq_comm]
  | (key, v) :: rest, place, ps, hv => by
    -- the key becomes the name, so that the name gives it back
    obtain ⟨hkey, hv, hrest⟩ := Value.entriesTagFree_cons.mp hv
    rw [properties, bind_eq_ok_iff, propertyEntries?_eq_cons_iff]
    simp only [keyName_eq_ok_iff hkey, bind_eq_ok_iff]
    constructor
    · rintro ⟨name, hname, p, hp, ps', hps, hdone⟩
      obtain rfl := Except.ok.inj hdone
      obtain ⟨rfl, hpv⟩ := (property_eq_ok_iff v hv).mp hp
      exact ⟨p, ps', rfl, hname, hpv, (properties_eq_ok_iff rest hrest).mp hps⟩
    · rintro ⟨p, ps', rfl, hname, hpv, hps⟩
      exact ⟨p.name, hname, p, (property_eq_ok_iff v hv).mpr ⟨rfl, hpv⟩, ps',
        (properties_eq_ok_iff rest hrest).mpr hps, rfl⟩

theorem elements_eq_ok_iff : ∀ (items : List Value) {place : Address} {index : Nat}
    {es : List Element}, Value.itemsTagFree items = true →
    (elements place index items = .ok es ↔ elementItems? es = some items)
  | [], place, index, es, _ => by
    rw [elements, elementItems?_eq_nil_iff]
    simp [eq_comm]
  | v :: rest, place, index, es, hv => by
    obtain ⟨hv, hrest⟩ := Value.itemsTagFree_cons.mp hv
    rw [elements, bind_eq_ok_iff, elementItems?_eq_cons_iff]
    simp only [bind_eq_ok_iff, element_eq_ok_iff v hv, elements_eq_ok_iff rest hrest]
    constructor
    · rintro ⟨x, hx, es', hes, hdone⟩
      obtain rfl := Except.ok.inj hdone
      exact ⟨x, es', rfl, hx, hes⟩
    · rintro ⟨x, es', rfl, hx, hes⟩
      exact ⟨x, hx, es', hes, rfl⟩

theorem element_eq_ok_iff : ∀ (v : Value) {place : Address} {x : Element},
    v.isTagFree = true → (element place v = .ok x ↔ x.value? = some v)
  | .map entries, place, x, hv => by
    rw [element, bind_eq_ok_iff]
    simp only [properties_eq_ok_iff entries hv]
    constructor
    · rintro ⟨ps, hps, hx⟩
      obtain rfl := Except.ok.inj hx
      exact congrArg (Option.map Value.map) hps
    · intro hx
      rcases Element.value?_cases hx with ⟨e, -, he⟩ | ⟨ps, _, rfl, hps, heq⟩ | ⟨_, _, -, -, hne⟩
      · exact absurd he Expr.value?_ne_map
      · obtain rfl := Value.map.inj heq
        exact ⟨ps, hps, rfl⟩
      · exact nomatch hne
  | .seq items, place, x, hv => by
    rw [element, bind_eq_ok_iff]
    simp only [elements_eq_ok_iff items hv]
    constructor
    · rintro ⟨es, hes, hx⟩
      obtain rfl := Except.ok.inj hx
      exact congrArg (Option.map Value.seq) hes
    · intro hx
      rcases Element.value?_cases hx with ⟨e, -, he⟩ | ⟨_, _, -, -, hne⟩ | ⟨es, _, rfl, hes, heq⟩
      · exact absurd he Expr.value?_ne_seq
      · exact nomatch hne
      · obtain rfl := Value.seq.inj heq
        exact ⟨es, hes, rfl⟩
  | .null, _, _, hv => element_scalar_eq_ok_iff hv nofun nofun
  | .bool _, _, _, hv => element_scalar_eq_ok_iff hv nofun nofun
  | .int _, _, _, hv => element_scalar_eq_ok_iff hv nofun nofun
  | .double _, _, _, hv => element_scalar_eq_ok_iff hv nofun nofun
  | .text _, _, _, hv => element_scalar_eq_ok_iff hv nofun nofun
  | .tagged .., _, _, hv => nomatch hv

end

section Acceptance

variable {α β : Type} {x : Conversion α} {f : α → Conversion β}

theorem exists_bind_ok_iff :
    (∃ b, x >>= f = .ok b) ↔ ∃ a, x = .ok a ∧ ∃ b, f a = .ok b := by
  simp only [bind_eq_ok_iff]
  exact exists_comm.trans (exists_congr fun a => exists_and_left)

theorem exists_return_ok_iff (b : β) : (∃ c, (return b : Conversion β) = .ok c) ↔ True :=
  iff_true_intro ⟨b, rfl⟩

theorem exists_bind_return_ok_iff {g : α → β} :
    (∃ b, (do return g (← x)) = .ok b) ↔ ∃ a, x = .ok a := by
  simp only [exists_bind_ok_iff, exists_return_ok_iff, and_true]

theorem exists_expression_iff (hmap : ∀ entries, v ≠ .map entries)
    (hseq : ∀ items, v ≠ .seq items) (hv : v.isTagFree = true) :
    (∃ e, expression place v = .ok e) ↔ v.isPlain = true := by
  cases v with
  | int n =>
    rw [expression, integer, Value.isPlain]
    change _ ↔ isLiteral n = true
    split <;> simp_all [refuse]
  | map entries => exact absurd rfl (hmap entries)
  | seq items => exact absurd rfl (hseq items)
  | tagged tag v => exact nomatch hv
  | _ => simp [expression, Value.isPlain, refuse]

theorem exists_property_scalar_iff (hv : v.isTagFree = true) (hmap : ∀ entries, v ≠ .map entries)
    (hseq : ∀ items, v ≠ .seq items) :
    (∃ p, property place name v = .ok p) ↔ v.isPlain = true := by
  rw [property_scalar hmap hseq, exists_bind_return_ok_iff, exists_expression_iff hmap hseq hv]

theorem exists_element_scalar_iff (hv : v.isTagFree = true) (hmap : ∀ entries, v ≠ .map entries)
    (hseq : ∀ items, v ≠ .seq items) :
    (∃ e, element place v = .ok e) ↔ v.isPlain = true := by
  rw [element_scalar hmap hseq, exists_bind_return_ok_iff, exists_expression_iff hmap hseq hv]

mutual

/-- Without tags, exactly the plain values make a property. -/
theorem exists_property_iff : ∀ (v : Value) {place : Address} {name : String},
    v.isTagFree = true → ((∃ p, property place name v = .ok p) ↔ v.isPlain = true)
  | .map entries, place, name, hv => by
    rw [property, exists_bind_return_ok_iff, exists_properties_iff entries hv, Value.isPlain]
  | .seq items, place, name, hv => by
    rw [property, exists_bind_return_ok_iff, exists_elements_iff items hv, Value.isPlain]
  | .null, _, _, hv => exists_property_scalar_iff hv nofun nofun
  | .bool _, _, _, hv => exists_property_scalar_iff hv nofun nofun
  | .int _, _, _, hv => exists_property_scalar_iff hv nofun nofun
  | .double _, _, _, hv => exists_property_scalar_iff hv nofun nofun
  | .text _, _, _, hv => exists_property_scalar_iff hv nofun nofun
  | .tagged .., _, _, hv => nomatch hv

theorem exists_properties_iff : ∀ (entries : List (Value × Value)) {place : Address},
    Value.entriesTagFree entries = true →
    ((∃ ps, properties place entries = .ok ps) ↔ Value.entriesPlain entries = true)
  | [], place, _ => by simp [properties, Value.entriesPlain]
  | (key, v) :: rest, place, hv => by
    obtain ⟨hkey, hv, hrest⟩ := Value.entriesTagFree_cons.mp hv
    rw [properties, exists_bind_ok_iff, Value.entriesPlain_cons]
    simp only [keyName_eq_ok_iff hkey, exists_bind_ok_iff, exists_return_ok_iff, and_true,
      exists_properties_iff rest hrest]
    constructor
    · rintro ⟨name, hname, p, hp, hps⟩
      exact ⟨⟨name, hname⟩, (exists_property_iff v hv).mp ⟨p, hp⟩, hps⟩
    · rintro ⟨⟨name, hname⟩, hplain, hps⟩
      obtain ⟨p, hp⟩ := (exists_property_iff v hv).mpr hplain
      exact ⟨name, hname, p, hp, hps⟩

theorem exists_elements_iff : ∀ (items : List Value) {place : Address} {index : Nat},
    Value.itemsTagFree items = true →
    ((∃ es, elements place index items = .ok es) ↔ Value.itemsPlain items = true)
  | [], place, index, _ => by simp [elements, Value.itemsPlain]
  | v :: rest, place, index, hv => by
    obtain ⟨hv, hrest⟩ := Value.itemsTagFree_cons.mp hv
    rw [elements, exists_bind_ok_iff, Value.itemsPlain, Bool.and_eq_true, ← exists_element_iff v hv]
    simp only [exists_bind_return_ok_iff, exists_elements_iff rest hrest]
    exact exists_and_right

theorem exists_element_iff : ∀ (v : Value) {place : Address},
    v.isTagFree = true → ((∃ e, element place v = .ok e) ↔ v.isPlain = true)
  | .map entries, place, hv => by
    rw [element, exists_bind_return_ok_iff, exists_properties_iff entries hv, Value.isPlain]
  | .seq items, place, hv => by
    rw [element, exists_bind_return_ok_iff, exists_elements_iff items hv, Value.isPlain]
  | .null, _, hv => exists_element_scalar_iff hv nofun nofun
  | .bool _, _, hv => exists_element_scalar_iff hv nofun nofun
  | .int _, _, hv => exists_element_scalar_iff hv nofun nofun
  | .double _, _, hv => exists_element_scalar_iff hv nofun nofun
  | .text _, _, hv => exists_element_scalar_iff hv nofun nofun
  | .tagged .., _, hv => nomatch hv

end

end Acceptance

end Conversion

section Bodies

variable {e : Expr} {v : Value}

theorem Expr.isWellFormed_of_value? (h : e.value? = some v) : e.isWellFormed = true := by
  cases e with
  | text s => rfl
  | int n => rfl
  | bool b => rfl
  | _ => exact nomatch h

mutual

theorem Property.shown_of_value? : ∀ (p : Property) {v : Value}, p.value? = some v →
    p.isWellFormed = true ∧ p.erase = p
  | .scalar name e, v, h => ⟨Expr.isWellFormed_of_value? h, rfl⟩
  | .object name false ps, v, h => by
    obtain ⟨entries, hps, -⟩ := Option.map_eq_some_iff.mp h
    obtain ⟨hw, he⟩ := shown_of_propertyEntries? ps hps
    exact ⟨hw, congrArg (Property.object name false) he⟩
  | .array name es, v, h => by
    obtain ⟨items, hes, -⟩ := Option.map_eq_some_iff.mp h
    obtain ⟨hw, he⟩ := shown_of_elementItems? es hes
    exact ⟨hw, congrArg (Property.array name) he⟩

theorem Element.shown_of_value? : ∀ (x : Element) {v : Value}, x.value? = some v →
    x.isWellFormed = true ∧ x.erase = x
  | .scalar e, v, h => ⟨Expr.isWellFormed_of_value? h, rfl⟩
  | .object name valueOnly ps, v, h => by
    rcases Element.value?_cases h with ⟨_, hx, -⟩ | ⟨ps', entries, hx, hps, -⟩ | ⟨_, _, hx, -, -⟩
    · exact nomatch hx
    · obtain ⟨rfl, rfl, rfl⟩ := Element.object.inj hx
      obtain ⟨hw, he⟩ := shown_of_propertyEntries? ps hps
      exact ⟨hw, congrArg (Element.object "" true) he⟩
    · exact nomatch hx
  | .array name es, v, h => by
    rcases Element.value?_cases h with ⟨_, hx, -⟩ | ⟨_, _, hx, -, -⟩ | ⟨es', items, hx, hes, -⟩
    · exact nomatch hx
    · exact nomatch hx
    · obtain ⟨rfl, rfl⟩ := Element.array.inj hx
      obtain ⟨hw, he⟩ := shown_of_elementItems? es hes
      exact ⟨hw, congrArg (Element.array "") he⟩

theorem shown_of_propertyEntries? : ∀ (ps : List Property) {entries : List (Value × Value)},
    propertyEntries? ps = some entries → propertiesWellFormed ps = true ∧ eraseProperties ps = ps
  | [], _, _ => ⟨rfl, rfl⟩
  | p :: ps, entries, h => by
    obtain ⟨v, hp, h⟩ := Option.bind_eq_some_iff.mp h
    obtain ⟨rest, hps, -⟩ := Option.bind_eq_some_iff.mp h
    obtain ⟨hpw, hpe⟩ := Property.shown_of_value? p hp
    obtain ⟨hw, he⟩ := shown_of_propertyEntries? ps hps
    exact ⟨by rw [propertiesWellFormed, hpw, hw]; rfl, by rw [eraseProperties, hpe, he]⟩

theorem shown_of_elementItems? : ∀ (es : List Element) {items : List Value},
    elementItems? es = some items → elementsWellFormed es = true ∧ eraseElements es = es
  | [], _, _ => ⟨rfl, rfl⟩
  | x :: es, items, h => by
    obtain ⟨v, hx, h⟩ := Option.bind_eq_some_iff.mp h
    obtain ⟨rest, hes, -⟩ := Option.bind_eq_some_iff.mp h
    obtain ⟨hxw, hxe⟩ := Element.shown_of_value? x hx
    obtain ⟨hw, he⟩ := shown_of_elementItems? es hes
    exact ⟨by rw [elementsWellFormed, hxw, hw]; rfl, by rw [eraseElements, hxe, he]⟩

end

/-- Bodies that mirror mappings are told apart by their texts. -/
theorem entries_eq_of_bodyChars_eq {ps qs : List Property} {entries entries' : List (Value × Value)}
    {level : Level} (hps : propertyEntries? ps = some entries)
    (hqs : propertyEntries? qs = some entries') (h : bodyChars ps level = bodyChars qs level) :
    entries = entries' := by
  obtain ⟨hpw, hpe⟩ := shown_of_propertyEntries? ps hps
  obtain ⟨hqw, hqe⟩ := shown_of_propertyEntries? qs hqs
  -- the text tells a tree up to erasure, and here nothing is erased
  obtain ⟨herase, -⟩ := bodyChars_append_inj (r := []) (s := []) hpw hqw (by rw [h])
  rw [hpe, hqe] at herase
  rw [herase] at hps
  exact Option.some.inj (hps.symm.trans hqs)

namespace Conversion

variable {r : ResourceEntry} {d : Declaration}

theorem declaration_eq_ok (h : declaration r = .ok d) : d.header.existing = r.existing ∧
    properties (.resource r.name) r.properties = .ok d.properties := by
  obtain ⟨d', hnew, h⟩ := bind_eq_ok_iff.mp h
  obtain ⟨ps, hps, h⟩ := bind_eq_ok_iff.mp h
  obtain ⟨n, -, hd⟩ := bind_eq_ok_iff.mp (mapError_eq_ok_iff.mp hnew)
  obtain rfl := Except.ok.inj hd
  obtain rfl := Except.ok.inj h
  cases hr : r.existing with
  | true => exact ⟨rfl, hps⟩
  | false => exact ⟨rfl, hps⟩

end Conversion

theorem Declaration.render_eq {d : Declaration} (hd : d.header.existing = false) :
    (Resource.declaration d).render =
      .ok (String.ofList (d.header.chars ++ bodyChars d.properties 0), []) := by
  refine Resource.render_eq_ok_iff.mpr ⟨⟨d.header, d.properties⟩, ⟨rfl, ?_⟩, rfl⟩
  have hconstruct : (Resource.declaration d).construct = .addAll d.properties := by
    rw [Resource.construct, Declaration.construct, hd]
    rfl
  have hbody : (Resource.declaration d).body = .ok d.properties := by
    rw [Resource.body, hconstruct]
    rfl
  rw [Resource.declared, hbody]
  rfl

end Bodies

/-- A value without tags makes a property if and only if it is plain, and the property mirrors the
value. Mappings that are not the same are not rendered to the same body, even if they differ in
nothing but the order of their keys. -/
theorem Conversion.values_mirrored :
    (∀ (v : Value) (place : Address) (name : String), v.isTagFree = true →
      ((∃ p, property place name v = .ok p) ↔ v.isPlain = true) ∧
      ∀ p, property place name v = .ok p ↔ p.name = name ∧ p.value? = some v) ∧
    ∀ (r r' : ResourceEntry) (d d' : Declaration), r.existing = false → r'.existing = false →
      Value.entriesTagFree r.properties = true → Value.entriesTagFree r'.properties = true →
      declaration r = .ok d → declaration r' = .ok d' →
      ∃ body body', (Resource.declaration d).render =
          .ok (String.ofList (d.header.chars ++ body), []) ∧
        (Resource.declaration d').render = .ok (String.ofList (d'.header.chars ++ body'), []) ∧
        (body = body' → r.properties = r'.properties) := by
  refine ⟨fun v place name hv => ⟨exists_property_iff v hv, fun p => property_eq_ok_iff v hv⟩, ?_⟩
  intro r r' d d' hr hr' hfree hfree' hd hd'
  obtain ⟨hnew, hps⟩ := declaration_eq_ok hd
  obtain ⟨hnew', hps'⟩ := declaration_eq_ok hd'
  rw [properties_eq_ok_iff _ hfree] at hps
  rw [properties_eq_ok_iff _ hfree'] at hps'
  exact ⟨_, _, Declaration.render_eq (hnew.trans hr), Declaration.render_eq (hnew'.trans hr'),
    entries_eq_of_bodyChars_eq hps hps'⟩

/-- The same entries in another order make another body. -/
theorem Conversion.swapped_entries_ne :
    let sku : Value × Value := (.text "sku", .map [(.text "name", .text "S1")])
    let zones : Value × Value := (.text "zones", .seq [.int 1, .int 2])
    let r : ResourceEntry := { name := "plan", type := "A/b@1", properties := [sku, zones] }
    let r' : ResourceEntry := { name := "plan", type := "A/b@1", properties := [zones, sku] }
    ∃ d d' text text', declaration r = .ok d ∧ declaration r' = .ok d' ∧
      (Resource.declaration d).render = .ok (text, []) ∧
      (Resource.declaration d').render = .ok (text', []) ∧ text ≠ text' := by
  dsimp only
  obtain ⟨body, body', h, h', hne⟩ := values_mirrored.2
    ⟨"plan", "A/b@1", false, [(.text "sku", .map [(.text "name", .text "S1")]),
      (.text "zones", .seq [.int 1, .int 2])]⟩
    ⟨"plan", "A/b@1", false, [(.text "zones", .seq [.int 1, .int 2]),
      (.text "sku", .map [(.text "name", .text "S1")])]⟩
    _ _ rfl rfl (by decide) (by decide) rfl rfl
  refine ⟨_, _, _, _, rfl, rfl, h, h', fun ht => ?_⟩
  have hbody := List.append_cancel_left (String.ofList_inj.mp ht)
  exact absurd (List.cons.inj (hne hbody)).1 (by simp)

end BicepTemplates
