import BicepTemplates.Proofs.Expression.Reading
import BicepTemplates.Proofs.Property.Writing

/-! # Property trees up to suppressed names

Objects and arrays that are array elements never show their names, and an object written without
its key does not show its name either. Erasing these names changes no text, and what is left is
determined by the text: two well-formed trees look the same at one level exactly if they are the
same up to erasure.
-/

namespace BicepTemplates

open Layout

mutual

/-- All expressions in the tree are well formed. Names of properties are arbitrary. -/
def Property.isWellFormed : Property → Bool
  | .scalar _ value => value.isWellFormed
  | .object _ _ properties => propertiesWellFormed properties
  | .array _ elements => elementsWellFormed elements

def Element.isWellFormed : Element → Bool
  | .scalar value => value.isWellFormed
  | .object _ _ properties => propertiesWellFormed properties
  | .array _ elements => elementsWellFormed elements

def propertiesWellFormed : List Property → Bool
  | [] => true
  | p :: rest => p.isWellFormed && propertiesWellFormed rest

def elementsWellFormed : List Element → Bool
  | [] => true
  | e :: rest => e.isWellFormed && elementsWellFormed rest

end

mutual

/-- Forgets the names that are never written. -/
def Property.erase : Property → Property
  | .scalar name value => .scalar name value
  | .object name valueOnly properties =>
    .object (if valueOnly then "" else name) valueOnly (eraseProperties properties)
  | .array name elements => .array name (eraseElements elements)

def Element.erase : Element → Element
  | .scalar value => .scalar value
  | .object _ _ properties => .object "" true (eraseProperties properties)
  | .array _ elements => .array "" (eraseElements elements)

def eraseProperties : List Property → List Property
  | [] => []
  | p :: rest => p.erase :: eraseProperties rest

def eraseElements : List Element → List Element
  | [] => []
  | e :: rest => e.erase :: eraseElements rest

end

section Lists

variable (ps : List Property) (es : List Element)

theorem propertiesWellFormed_iff :
    propertiesWellFormed ps = true ↔ ∀ p ∈ ps, p.isWellFormed = true := by
  induction ps with
  | nil => simp [propertiesWellFormed]
  | cons p ps ih => simp [propertiesWellFormed, ih]

theorem elementsWellFormed_iff :
    elementsWellFormed es = true ↔ ∀ e ∈ es, e.isWellFormed = true := by
  induction es with
  | nil => simp [elementsWellFormed]
  | cons e es ih => simp [elementsWellFormed, ih]

theorem eraseProperties_eq : eraseProperties ps = ps.map Property.erase := by
  induction ps with
  | nil => rfl
  | cons p ps ih => rw [eraseProperties, ih, List.map_cons]

theorem eraseElements_eq : eraseElements es = es.map Element.erase := by
  induction es with
  | nil => rfl
  | cons e es ih => rw [eraseElements, ih, List.map_cons]

end Lists

theorem chars_erase :
    (∀ p : Property, p.erase.chars = p.chars) ∧ ∀ e : Element, e.erase.chars = e.chars := by
  have hobject : ∀ {ps : List Property}, (∀ p ∈ ps, p.erase.chars = p.chars) →
      propertyTexts (eraseProperties ps) = propertyTexts ps := by
    intro ps h
    rw [propertyTexts_eq, propertyTexts_eq, eraseProperties_eq, List.map_map]
    exact List.map_congr_left h
  have harray : ∀ {es : List Element}, (∀ e ∈ es, e.erase.chars = e.chars) →
      elementTexts (eraseElements es) = elementTexts es := by
    intro es h
    rw [elementTexts_eq, elementTexts_eq, eraseElements_eq, List.map_map]
    exact List.map_congr_left h
  refine Property.tree_induction (fun _ _ => rfl) ?object ?array (fun _ => rfl) ?objectElement
    ?arrayElement
  case object =>
    intro name valueOnly ps h
    cases valueOnly <;> simp [Property.erase, Property.chars, hobject h]
  case array =>
    intro name es h
    simp [Property.erase, Property.chars, harray h]
  case objectElement =>
    intro name valueOnly ps h
    simp [Element.erase, Element.chars, hobject h]
  case arrayElement =>
    intro name es h
    simp [Element.erase, Element.chars, harray h]

section Keys

variable {a b name : String}

theorem exists_keyChars_eq_cons (name : String) :
    ∃ c text, keyChars name = c :: text ∧ opensExpr c = true := by
  unfold keyChars
  split
  · next hi =>
    obtain ⟨c, text, he⟩ := List.exists_cons_of_ne_nil (ne_nil_of_isIdentifierWord hi)
    have hc := isWordChar_of_isIdentifierWord hi c (he ▸ List.mem_cons_self)
    exact ⟨c, text ++ [':', ' '], by rw [he]; rfl, by simp [opensExpr, hc]⟩
  · exact ⟨'\'', _, rfl, by decide⟩

theorem keyChars_of_isIdentifier (h : isIdentifier name = true) :
    keyChars name = name.toList ++ [':', ' '] := by
  rw [keyChars, if_pos h]

theorem keyChars_of_not_isIdentifier (h : ¬ isIdentifier name = true) :
    keyChars name = Quoted.encode name.toList ++ [':', ' '] := by
  rw [keyChars, if_neg h]

theorem bare_append_ne_quoted (h : isIdentifier a = true) (r s : List Char) :
    keyChars a ++ r ≠ Quoted.encode b.toList ++ s := by
  intro he
  obtain ⟨c, text, hc⟩ := List.exists_cons_of_ne_nil (ne_nil_of_isIdentifierWord h)
  have hw := isWordChar_of_isIdentifierWord h c (hc ▸ List.mem_cons_self)
  simp only [keyChars_of_isIdentifier h, hc, Quoted.encode, List.cons_append,
    List.cons.injEq] at he
  rw [he.1] at hw
  exact absurd hw (by decide)

theorem keyChars_append_inj {r s : List Char} (h : keyChars a ++ r = keyChars b ++ s) :
    a = b ∧ r = s := by
  have hcolon : ∀ t : List Char, Ends isWordChar ([':', ' '] ++ t) :=
    fun _ => ends_cons.mpr (by decide)
  by_cases ha : isIdentifier a = true <;> by_cases hb : isIdentifier b = true
  · rw [keyChars_of_isIdentifier ha, keyChars_of_isIdentifier hb, List.append_assoc,
      List.append_assoc] at h
    obtain ⟨hab, ht⟩ := run_append_inj (isWordChar_of_isIdentifierWord ha)
      (isWordChar_of_isIdentifierWord hb) (hcolon r) (hcolon s) h
    exact ⟨String.toList_inj.mp hab, by simpa using ht⟩
  · rw [keyChars_of_not_isIdentifier hb, List.append_assoc] at h
    exact absurd h (bare_append_ne_quoted ha _ _)
  · rw [keyChars_of_not_isIdentifier ha, List.append_assoc] at h
    exact absurd h.symm (bare_append_ne_quoted hb _ _)
  · rw [keyChars_of_not_isIdentifier ha, keyChars_of_not_isIdentifier hb, List.append_assoc,
      List.append_assoc] at h
    obtain ⟨hab, ht⟩ := Quoted.encode_append_inj h
    exact ⟨String.toList_inj.mp hab, by simpa using ht⟩

end Keys

section Blocks

variable {α β : Type} {δ : Delimiters} {text : α → Level → List Char} {e : α → β} {xs ys : List α}
  {level : Level} {r s : List Char}

/-- The indentation one level deeper has another length, even where levels wrap around. -/
theorem lineStart_append_ne (hr : Ends (· == ' ') r) (hs : Ends (· == ' ') s) (level : Level) :
    lineStart (level + 1) ++ r ≠ lineStart level ++ s := by
  intro h
  have hspaces : ∀ n, ∀ c ∈ List.replicate n ' ', (c == ' ') = true := by
    intro n c hc
    rw [List.eq_of_mem_replicate hc]
    rfl
  have hindent := (run_append_inj (hspaces _) (hspaces _) hr hs (List.cons.inj h).2).1
  have hlength := congrArg List.length hindent
  rw [List.length_replicate, List.length_replicate, UInt64.toNat_inj] at hlength
  grind

/-- Inside a block the line with the closing delimiter is indented otherwise than the items are. -/
theorem blockText_append_inj {c : Char} (hc : δ.closing.toList = [c]) (hne : c ≠ '\n' ∧ c ≠ ' ')
    (hx : ∀ x ∈ xs, ∀ n u, Ends (· == ' ') (text x n ++ u))
    (hy : ∀ y ∈ ys, ∀ n u, Ends (· == ' ') (text y n ++ u))
    (hinj : ∀ x ∈ xs, ∀ y ∈ ys, ∀ n r s, Ends goesOn r → Ends goesOn s →
      text x n ++ r = text y n ++ s → e x = e y ∧ r = s)
    (h : blockText δ (xs.map text) level ++ r = blockText δ (ys.map text) level ++ s) :
    xs.map e = ys.map e ∧ r = s := by
  have hsep : ∀ n u, Ends goesOn (lineStart n ++ u) := fun _ _ => ends_cons.mpr (by decide)
  have hclosing : ∀ t, Ends (· == ' ') (c :: t) := fun _ => ends_cons.mpr (by simpa using hne.2)
  simp only [blockText, hc, List.append_assoc, List.append_cancel_left_eq, List.flatMap_map] at h
  cases xs with
  | nil =>
    cases ys with
    | nil => exact ⟨rfl, by simpa using h⟩
    | cons y ys =>
      simp only [lineStart, List.flatMap_nil, List.nil_append, List.map_nil, List.isEmpty_nil,
        if_true, List.flatMap_cons, List.cons_append, List.cons.injEq] at h
      exact absurd h.1 hne.1
  | cons x xs =>
    cases ys with
    | nil =>
      simp only [lineStart, List.flatMap_nil, List.nil_append, List.map_nil, List.isEmpty_nil,
        if_true, List.flatMap_cons, List.cons_append, List.cons.injEq] at h
      exact absurd h.1.symm hne.1
    | cons y ys =>
      obtain ⟨hmap, ht⟩ := separated_append_inj (hsep (level + 1))
        (fun x hx y hy r s => hinj x hx y hy (level + 1) r s) (hsep level _) (hsep level _)
        (fun x h u => lineStart_append_ne (hx x h _ u) (hclosing _) level)
        (fun y h u => lineStart_append_ne (hy y h _ u) (hclosing _) level) h
      exact ⟨hmap, by simpa using ht⟩

end Blocks

namespace Property

def key? : Property → Option String
  | .scalar name _ => some name
  | .object name valueOnly _ => if valueOnly then none else some name
  | .array name _ => some name

def content : Property → Element
  | .scalar _ value => .scalar value
  | .object name valueOnly properties => .object name valueOnly properties
  | .array name elements => .array name elements

theorem chars_eq (p : Property) (level : Level) :
    p.chars level = p.key?.elim [] keyChars ++ p.content.chars level := by
  cases p with
  | object name valueOnly ps => cases valueOnly <;> rfl
  | _ => rfl

theorem isWellFormed_content (p : Property) : p.content.isWellFormed = p.isWellFormed := by
  cases p <;> rfl

theorem erase_eq_of_key_of_content {p q : Property} (hk : p.key? = q.key?)
    (hc : p.content.erase = q.content.erase) : p.erase = q.erase := by
  cases p <;> cases q <;> simp_all [key?, content, Property.erase, Element.erase]
  case object.object a va ps b vb qs => cases va <;> cases vb <;> simp_all

theorem unkeyed_append_ne_keyed {p : Property} (h : p.key? = none) (level : Level)
    {name : String} {r s : List Char} : p.content.chars level ++ r ≠ keyChars name ++ s := by
  intro he
  obtain ⟨c, key, hc, ho⟩ := exists_keyChars_eq_cons name
  cases p with
  | object a valueOnly ps =>
    rw [hc] at he
    rw [← (List.cons.inj he).1] at ho
    exact absurd ho (by decide)
  | _ => simp [key?] at h

end Property

theorem Element.ends_chars_append {e : Element} (he : e.isWellFormed = true) (n : Level)
    (u : List Char) : Ends (· == ' ') (e.chars n ++ u) := by
  cases e with
  | scalar value => exact BicepTemplates.ends_chars_append he (by decide) u
  | object name valueOnly ps => exact ends_cons.mpr (by decide)
  | array name es => exact ends_cons.mpr (by decide)

theorem Property.ends_chars_append {p : Property} (hp : p.isWellFormed = true) (n : Level)
    (u : List Char) : Ends (· == ' ') (p.chars n ++ u) := by
  rw [chars_eq]
  cases p.key? with
  | none =>
    rw [← isWellFormed_content] at hp
    exact Element.ends_chars_append hp n u
  | some name =>
    obtain ⟨c, key, hc, ho⟩ := exists_keyChars_eq_cons name
    rw [Option.elim_some, hc]
    refine ends_cons.mpr (beq_eq_false_iff_ne.mpr ?_)
    rintro rfl
    exact absurd ho (by decide)

/-- The text of the element tells it and what follows from any other element at the same level, up
to erasure. -/
def Element.Delimited (e : Element) : Prop :=
  ∀ f : Element, e.isWellFormed = true → f.isWellFormed = true → ∀ n r s, Ends goesOn r →
    Ends goesOn s → e.chars n ++ r = f.chars n ++ s → e.erase = f.erase ∧ r = s

def Property.Delimited (p : Property) : Prop :=
  ∀ q : Property, p.isWellFormed = true → q.isWellFormed = true → ∀ n r s, Ends goesOn r →
    Ends goesOn s → p.chars n ++ r = q.chars n ++ s → p.erase = q.erase ∧ r = s

theorem chars_append_ne_cons {v : Expr} (hv : v.isWellFormed = true) {d : Char}
    (hd : opensExpr d = false) (r t : List Char) : v.chars ++ r ≠ d :: t := by
  intro h
  have he := ends_chars_append hv hd r
  rw [h, ends_cons] at he
  simp at he

theorem Element.delimited_scalar (v : Expr) : (Element.scalar v).Delimited := by
  intro f hv hf n r s hr hs h
  cases f with
  | scalar w =>
    obtain ⟨rfl, ht⟩ := Expr.chars_append_inj hv hf hr hs h
    exact ⟨rfl, ht⟩
  | object name valueOnly qs => exact absurd h (chars_append_ne_cons hv (by decide) _ _)
  | array name fs => exact absurd h (chars_append_ne_cons hv (by decide) _ _)

theorem Element.delimited_object (name : String) (valueOnly : Bool) {ps : List Property}
    (ih : ∀ p ∈ ps, p.Delimited) : (Element.object name valueOnly ps).Delimited := by
  intro f hp hf n r s hr hs h
  cases f with
  | scalar w => exact absurd h.symm (chars_append_ne_cons hf (by decide) _ _)
  | object name' valueOnly' qs =>
    simp only [isWellFormed, propertiesWellFormed_iff] at hp hf
    simp only [chars, propertyTexts_eq] at h
    obtain ⟨hm, ht⟩ := blockText_append_inj rfl (by decide)
      (fun p hps => Property.ends_chars_append (hp p hps))
      (fun q hqs => Property.ends_chars_append (hf q hqs))
      (fun p hps q hqs => ih p hps q (hp p hps) (hf q hqs)) h
    exact ⟨by simp only [erase, eraseProperties_eq, hm], ht⟩
  | array name' fs => exact absurd (List.cons.inj h).1 (by decide)

theorem Element.delimited_array (name : String) {es : List Element}
    (ih : ∀ e ∈ es, e.Delimited) : (Element.array name es).Delimited := by
  intro f he hf n r s hr hs h
  cases f with
  | scalar w => exact absurd h.symm (chars_append_ne_cons hf (by decide) _ _)
  | object name' valueOnly' qs => exact absurd (List.cons.inj h).1 (by decide)
  | array name' fs =>
    simp only [isWellFormed, elementsWellFormed_iff] at he hf
    simp only [chars, elementTexts_eq] at h
    obtain ⟨hm, ht⟩ := blockText_append_inj rfl (by decide)
      (fun e hes => ends_chars_append (he e hes)) (fun f hfs => ends_chars_append (hf f hfs))
      (fun e hes f hfs => ih e hes f (he e hes) (hf f hfs)) h
    exact ⟨by simp only [erase, eraseElements_eq, hm], ht⟩

theorem Property.delimited_of_content {p : Property} (ih : p.content.Delimited) :
    p.Delimited := by
  intro q hp hq n r s hr hs h
  rw [← isWellFormed_content] at hp hq
  rw [chars_eq, chars_eq, List.append_assoc, List.append_assoc] at h
  cases hpk : p.key? with
  | none =>
    cases hqk : q.key? with
    | none =>
      rw [hpk, hqk] at h
      obtain ⟨hc, ht⟩ := ih _ hp hq n r s hr hs h
      exact ⟨erase_eq_of_key_of_content (hpk.trans hqk.symm) hc, ht⟩
    | some b =>
      rw [hpk, hqk] at h
      exact absurd h (unkeyed_append_ne_keyed hpk n)
  | some a =>
    cases hqk : q.key? with
    | none =>
      rw [hpk, hqk] at h
      exact absurd h.symm (unkeyed_append_ne_keyed hqk n)
    | some b =>
      rw [hpk, hqk] at h
      obtain ⟨rfl, htail⟩ := keyChars_append_inj h
      obtain ⟨hc, ht⟩ := ih _ hp hq n r s hr hs htail
      exact ⟨erase_eq_of_key_of_content (hpk.trans hqk.symm) hc, ht⟩

theorem tree_delimited : (∀ p : Property, p.Delimited) ∧ ∀ e : Element, e.Delimited := by
  refine Property.tree_induction ?scalar ?object ?array Element.delimited_scalar ?objectElement
    ?arrayElement
  case scalar =>
    intro name value
    exact Property.delimited_of_content (Element.delimited_scalar value)
  case object =>
    intro name valueOnly ps ih
    exact Property.delimited_of_content (Element.delimited_object name valueOnly ih)
  case array =>
    intro name es ih
    exact Property.delimited_of_content (Element.delimited_array name ih)
  case objectElement =>
    intro name valueOnly ps ih
    exact Element.delimited_object name valueOnly ih
  case arrayElement =>
    intro name es ih
    exact Element.delimited_array name ih

/-- Two trees look the same at a level exactly if they differ in suppressed names at most. -/
theorem Property.renderAt_eq_iff {p q : Property} (hp : p.isWellFormed = true)
    (hq : q.isWellFormed = true) (level : Level) :
    p.renderAt level = q.renderAt level ↔ p.erase = q.erase := by
  rw [← String.toList_inj, toList_renderAt, toList_renderAt]
  constructor
  · intro h
    exact (tree_delimited.1 p q hp hq level [] [] ends_nil ends_nil (by rw [h])).1
  · intro h
    rw [← chars_erase.1 p, h, chars_erase.1 q]

/-- An object in an array looks the same under any name. -/
theorem Property.renderAt_element_name :
    (array "rules" [.object "a" false [scalar "id" (.symbol "subnet")]]).isWellFormed = true ∧
      (array "rules" [.object "b" true [scalar "id" (.symbol "subnet")]]).isWellFormed = true ∧
      (array "rules" [.object "a" false [scalar "id" (.symbol "subnet")]]).renderAt 3 =
        (array "rules" [.object "b" true [scalar "id" (.symbol "subnet")]]).renderAt 3 :=
  ⟨by decide, by decide, (renderAt_eq_iff (by decide) (by decide) 3).mpr rfl⟩

end BicepTemplates
