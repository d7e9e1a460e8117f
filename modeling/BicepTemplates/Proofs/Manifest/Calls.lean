import BicepTemplates.Proofs.Document.Outline
import BicepTemplates.Proofs.Expression.Building
import BicepTemplates.Proofs.Manifest.Mirroring

/-! # Called functions

A reference is checked segment by segment, but the name of a called function is taken as it is
given. All other names in the document of a manifest are identifiers. If those of the called
functions are too, the template has one block for each thing that the manifest declares; a name
that is not an identifier may put a blank line, and anything else, into the template.
-/

namespace BicepTemplates

open Yaml (Value)

namespace Yaml.Value

mutual

/-- The names of the functions that the value calls. -/
def calledNames : Value → List String
  | .seq items => itemsCalledNames items
  | .map entries => entriesCalledNames entries
  | .tagged "call" (.map entries) =>
    ((Value.entry? (.text "name") entries).bind string?).toList ++ argumentsCalledNames entries
  | .tagged "interpolate" (.seq items) => itemsCalledNames items
  | _ => []

def itemsCalledNames : List Value → List String
  | [] => []
  | v :: rest => v.calledNames ++ itemsCalledNames rest

def entriesCalledNames : List (Value × Value) → List String
  | [] => []
  | (_, v) :: rest => v.calledNames ++ entriesCalledNames rest

def argumentsCalledNames : List (Value × Value) → List String
  | [] => []
  | (.text "args", .seq items) :: _ => itemsCalledNames items
  | (.text "args", _) :: _ => []
  | _ :: rest => argumentsCalledNames rest

end

theorem argumentsCalledNames_cons {key v : Value} {rest : List (Value × Value)}
    (h : key ≠ .text "args") :
    argumentsCalledNames ((key, v) :: rest) = argumentsCalledNames rest := by
  rw [argumentsCalledNames]
  · exact fun _ hentry => h (Prod.mk.inj hentry).1
  · exact fun _ hentry => h (Prod.mk.inj hentry).1

end Yaml.Value

def Manifest.calledNames (m : Manifest) : List String :=
  m.parameters.flatMap (·.default.elim [] Value.calledNames) ++
    m.resources.flatMap (Value.entriesCalledNames ·.properties)

/-- The called names are all among the names, and the others are identifiers. -/
def Covers (called names : List String) : Prop :=
  (∀ name ∈ called, name ∈ names) ∧ ∀ name ∈ names, isIdentifier name = true ∨ name ∈ called

section Covers

variable {called called' names names' : List String}

theorem covers_refl (names : List String) : Covers names names :=
  ⟨fun _ h => h, fun _ h => .inr h⟩

theorem covers_of_identifiers (h : Identifiers names) : Covers [] names :=
  ⟨by simp, fun name hname => .inl (h name hname)⟩

theorem Covers.append (h : Covers called names) (h' : Covers called' names') :
    Covers (called ++ called') (names ++ names') := by
  obtain ⟨hcalled, hnames⟩ := h
  obtain ⟨hcalled', hnames'⟩ := h'
  simp only [Covers, List.mem_append]
  constructor
  · rintro name (h | h)
    · exact .inl (hcalled name h)
    · exact .inr (hcalled' name h)
  · rintro name (h | h)
    · exact (hnames name h).imp_right .inl
    · exact (hnames' name h).imp_right .inr

theorem covers_flatMap {α β : Type} {f : α → List String} {g : β → List String} {xs : List α}
    {ys : List β} (h : List.Forall₂ (fun x y => Covers (f x) (g y)) xs ys) :
    Covers (xs.flatMap f) (ys.flatMap g) := by
  induction h with
  | nil => exact covers_refl []
  | cons hxy _ ih =>
    rw [List.flatMap_cons, List.flatMap_cons]
    exact hxy.append ih

theorem Covers.identifiers_iff (h : Covers called names) :
    Identifiers names ↔ Identifiers called := by
  constructor
  · exact fun hnames name hname => hnames name (h.1 name hname)
  · exact fun hcalled name hname => (h.2 name hname).elim id (hcalled name)

end Covers

section Interpolations

theorem names_of_build {b : Interpolation} {e : Expr} (hb : b.literals ≠ [])
    (h : b.build = .ok e) : e.names = argsNames b.expressions := by
  obtain ⟨literals, holes⟩ := b
  unfold Interpolation.build at h
  split at h
  · next hholes =>
    obtain rfl := Except.ok.inj h
    rw [hholes]
    rfl
  · next hliterals _ => exact absurd hliterals hb
  · next first literals hole holes _ hholes =>
    split at h
    · next rest hrest =>
      obtain rfl := Except.ok.inj h
      rw [hholes, Expr.names, argsNames, ← (eq_of_zip? hrest).1, argsNames_expressions]
    · cases h

end Interpolations

namespace Conversion

variable {place : Address} {name tag : String} {v : Value} {e : Expr}

theorem expression_tagged_cases (h : expression place (.tagged tag v) = .ok e) :
    (tag = "ref" ∧ reference place v = .ok e) ∨
    (∃ entries name args, tag = "call" ∧ v = .map entries ∧ calledName place entries = .ok name ∧
      arguments place entries = .ok args ∧ e = .call name args) ∨
    ∃ items b, tag = "interpolate" ∧ v = .seq items ∧ segments place 0 "" {} items = .ok b ∧
      b.build = .ok e := by
  by_cases href : tag = "ref"
  · subst href
    exact .inl ⟨rfl, h⟩
  by_cases hcall : tag = "call"
  · subst hcall
    cases v with
    | map entries =>
      obtain ⟨name, hname, h⟩ := bind_eq_ok_iff.mp h
      obtain ⟨args, hargs, h⟩ := bind_eq_ok_iff.mp h
      exact .inr (.inl ⟨entries, name, args, rfl, rfl, hname, hargs, (Except.ok.inj h).symm⟩)
    | _ => cases h
  by_cases hinterpolate : tag = "interpolate"
  · subst hinterpolate
    cases v with
    | seq items =>
      obtain ⟨b, hb, h⟩ := bind_eq_ok_iff.mp h
      exact .inr (.inr ⟨items, b, rfl, rfl, hb, mapError_eq_ok_iff.mp h⟩)
    | _ => cases h
  rw [expression] at h
  · cases h
  · exact href
  · exact fun _ htag _ => hcall htag
  · exact hcall
  · exact fun _ htag _ => hinterpolate htag
  · exact hinterpolate

theorem arguments_cons {key : Value} {rest : List (Value × Value)} (h : key ≠ .text "args") :
    arguments place ((key, v) :: rest) = arguments place rest := by
  rw [arguments]
  · exact fun _ hentry => h (Prod.mk.inj hentry).1
  · exact fun _ hentry => h (Prod.mk.inj hentry).1

theorem arguments_cons_cases {key : Value} {rest : List (Value × Value)} {args : List Expr}
    (h : arguments place ((key, v) :: rest) = .ok args) :
    (∃ items, key = .text "args" ∧ v = .seq items ∧ argumentItems place 0 items = .ok args) ∨
      key ≠ .text "args" ∧ arguments place rest = .ok args := by
  by_cases hkey : key = .text "args"
  · subst hkey
    cases v with
    | seq items => exact .inl ⟨items, rfl, rfl, h⟩
    | _ => exact nomatch h
  · rw [arguments_cons hkey] at h
    exact .inr ⟨hkey, h⟩

theorem segments_cons (hv : ∀ s, v ≠ .text s) {index : Nat} {literal : String}
    {b : Interpolation} {rest : List Value} :
    segments place index literal b (v :: rest) = expression (.item place index) v >>= fun e =>
      segments place (index + 1) "" ((b.literal literal).expression e) rest := by
  rw [segments]
  exact hv

theorem segments_cons_cases {index : Nat} {literal : String} {b b' : Interpolation}
    {rest : List Value} (h : segments place index literal b (v :: rest) = .ok b') :
    (∃ s, v = .text s ∧ segments place (index + 1) (literal ++ s) b rest = .ok b') ∨
      ∃ e, expression (.item place index) v = .ok e ∧
        segments place (index + 1) "" ((b.literal literal).expression e) rest = .ok b' := by
  cases v with
  | text s => exact .inl ⟨s, rfl, h⟩
  | _ => exact .inr (bind_eq_ok_iff.mp h)

theorem calledName_eq_ok {entries : List (Value × Value)}
    (h : calledName place entries = .ok name) :
    (Value.entry? (.text "name") entries).bind Value.string? = some name := by
  unfold calledName at h
  split at h
  · next hname =>
    obtain rfl := Except.ok.inj h
    exact hname
  · exact nomatch h

theorem covers_reference (h : reference place v = .ok e) : Covers [] e.names := by
  unfold reference at h
  split at h
  · exact covers_of_identifiers (identifiers_of_ofPath (mapError_eq_ok_iff.mp h))
  · exact nomatch h

mutual

/-- The names of an expression that are not called names come from checked references. -/
theorem covers_expression : ∀ (v : Value) {place : Address} {e : Expr},
    expression place v = .ok e → Covers v.calledNames e.names
  | .null, _, _, h => nomatch h
  | .bool b, _, e, h => by
    obtain rfl := Except.ok.inj h
    exact covers_refl []
  | .int n, _, e, h => by
    rw [expression, integer] at h
    split at h
    · obtain rfl := Except.ok.inj h
      exact covers_refl []
    · exact nomatch h
  | .double _, _, _, h => nomatch h
  | .text s, _, e, h => by
    obtain rfl := Except.ok.inj h
    exact covers_refl []
  | .seq _, _, _, h => nomatch h
  | .map _, _, _, h => nomatch h
  | .tagged tag v, _, e, h => by
    rcases expression_tagged_cases h with ⟨rfl, h⟩ |
      ⟨entries, name, args, rfl, rfl, hname, hargs, rfl⟩ | ⟨items, b, rfl, rfl, hb, hbuild⟩
    · exact covers_reference h
    · rw [Value.calledNames, calledName_eq_ok hname]
      exact (covers_refl [name]).append (covers_arguments entries hargs)
    · -- the string has all expressions of the items, since the last literal is never left out
      obtain ⟨holes, hholes, hcovers, hne⟩ := covers_segments items hb
      rw [Value.calledNames, names_of_build hne hbuild, hholes]
      exact hcovers

theorem covers_arguments : ∀ (entries : List (Value × Value)) {place : Address}
    {args : List Expr}, arguments place entries = .ok args →
    Covers (Value.argumentsCalledNames entries) (argsNames args)
  | [], _, args, h => by
    obtain rfl := Except.ok.inj h
    exact covers_refl []
  | (key, v) :: rest, _, args, h => by
    rcases arguments_cons_cases h with ⟨items, rfl, rfl, h⟩ | ⟨hkey, h⟩
    · exact covers_argumentItems items h
    · rw [Value.argumentsCalledNames_cons hkey]
      exact covers_arguments rest h

theorem covers_argumentItems : ∀ (items : List Value) {place : Address} {index : Nat}
    {args : List Expr}, argumentItems place index items = .ok args →
    Covers (Value.itemsCalledNames items) (argsNames args)
  | [], _, _, args, h => by
    obtain rfl := Except.ok.inj h
    exact covers_refl []
  | v :: rest, _, _, args, h => by
    obtain ⟨e, he, h⟩ := bind_eq_ok_iff.mp h
    obtain ⟨more, hmore, h⟩ := bind_eq_ok_iff.mp h
    obtain rfl := Except.ok.inj h
    exact (covers_expression v he).append (covers_argumentItems rest hmore)

theorem covers_segments : ∀ (items : List Value) {place : Address} {index : Nat}
    {literal : String} {b b' : Interpolation}, segments place index literal b items = .ok b' →
    ∃ holes, b'.expressions = b.expressions ++ holes ∧
      Covers (Value.itemsCalledNames items) (argsNames holes) ∧ b'.literals ≠ []
  | [], _, _, literal, b, b', h => by
    obtain rfl := Except.ok.inj h
    refine ⟨[], (List.append_nil _).symm, covers_refl [], ?_⟩
    exact List.append_ne_nil_of_right_ne_nil _ (List.cons_ne_nil _ _)
  | v :: rest, _, _, literal, b, b', h => by
    rcases segments_cons_cases h with ⟨s, rfl, h⟩ | ⟨e, he, h⟩
    · exact covers_segments rest h
    · obtain ⟨holes, hholes, hcovers, hne⟩ := covers_segments rest h
      refine ⟨e :: holes, ?_, (covers_expression v he).append hcovers, hne⟩
      rw [hholes]
      exact List.append_assoc _ _ _

end

theorem covers_property_scalar {p : Property} (h : property place name v = .ok p)
    (hmap : ∀ entries, v ≠ .map entries) (hseq : ∀ items, v ≠ .seq items) :
    Covers v.calledNames p.names := by
  rw [property_scalar hmap hseq] at h
  obtain ⟨e, he, h⟩ := bind_eq_ok_iff.mp h
  obtain rfl := Except.ok.inj h
  exact covers_expression v he

theorem covers_element_scalar {x : Element} (h : element place v = .ok x)
    (hmap : ∀ entries, v ≠ .map entries) (hseq : ∀ items, v ≠ .seq items) :
    Covers v.calledNames x.names := by
  rw [element_scalar hmap hseq] at h
  obtain ⟨e, he, h⟩ := bind_eq_ok_iff.mp h
  obtain rfl := Except.ok.inj h
  exact covers_expression v he

mutual

theorem covers_property : ∀ (v : Value) {place : Address} {name : String} {p : Property},
    property place name v = .ok p → Covers v.calledNames p.names
  | .map entries, _, _, p, h => by
    obtain ⟨ps, hps, h⟩ := bind_eq_ok_iff.mp h
    obtain rfl := Except.ok.inj h
    exact covers_properties entries hps
  | .seq items, _, _, p, h => by
    obtain ⟨es, hes, h⟩ := bind_eq_ok_iff.mp h
    obtain rfl := Except.ok.inj h
    exact covers_elements items hes
  | .null, _, _, _, h => covers_property_scalar h nofun nofun
  | .bool _, _, _, _, h => covers_property_scalar h nofun nofun
  | .int _, _, _, _, h => covers_property_scalar h nofun nofun
  | .double _, _, _, _, h => covers_property_scalar h nofun nofun
  | .text _, _, _, _, h => covers_property_scalar h nofun nofun
  | .tagged .., _, _, _, h => covers_property_scalar h nofun nofun

theorem covers_properties : ∀ (entries : List (Value × Value)) {place : Address}
    {ps : List Property}, properties place entries = .ok ps →
    Covers (Value.entriesCalledNames entries) (propertiesNames ps)
  | [], _, ps, h => by
    obtain rfl := Except.ok.inj h
    exact covers_refl []
  | (key, v) :: rest, _, ps, h => by
    obtain ⟨name, -, h⟩ := bind_eq_ok_iff.mp h
    obtain ⟨p, hp, h⟩ := bind_eq_ok_iff.mp h
    obtain ⟨more, hmore, h⟩ := bind_eq_ok_iff.mp h
    obtain rfl := Except.ok.inj h
    exact (covers_property v hp).append (covers_properties rest hmore)

theorem covers_elements : ∀ (items : List Value) {place : Address} {index : Nat}
    {es : List Element}, elements place index items = .ok es →
    Covers (Value.itemsCalledNames items) (elementsNames es)
  | [], _, _, es, h => by
    obtain rfl := Except.ok.inj h
    exact covers_refl []
  | v :: rest, _, _, es, h => by
    obtain ⟨x, hx, h⟩ := bind_eq_ok_iff.mp h
    obtain ⟨more, hmore, h⟩ := bind_eq_ok_iff.mp h
    obtain rfl := Except.ok.inj h
    exact (covers_element v hx).append (covers_elements rest hmore)

theorem covers_element : ∀ (v : Value) {place : Address} {x : Element},
    element place v = .ok x → Covers v.calledNames x.names
  | .map entries, _, x, h => by
    obtain ⟨ps, hps, h⟩ := bind_eq_ok_iff.mp h
    obtain rfl := Except.ok.inj h
    exact covers_properties entries hps
  | .seq items, _, x, h => by
    obtain ⟨es, hes, h⟩ := bind_eq_ok_iff.mp h
    obtain rfl := Except.ok.inj h
    exact covers_elements items hes
  | .null, _, _, h => covers_element_scalar h nofun nofun
  | .bool _, _, _, h => covers_element_scalar h nofun nofun
  | .int _, _, _, h => covers_element_scalar h nofun nofun
  | .double _, _, _, h => covers_element_scalar h nofun nofun
  | .text _, _, _, h => covers_element_scalar h nofun nofun
  | .tagged .., _, _, h => covers_element_scalar h nofun nofun

end

theorem covers_parameter {entry : ParameterEntry} {p : Parameter} (h : parameter entry = .ok p) :
    Covers (entry.default.elim [] Value.calledNames) p.names := by
  obtain ⟨name, -, h⟩ := bind_eq_ok_iff.mp h
  obtain ⟨default, hdefault, h⟩ := bind_eq_ok_iff.mp h
  obtain rfl := Except.ok.inj h
  cases hentry : entry.default with
  | none =>
    rw [hentry] at hdefault
    obtain rfl := Except.ok.inj hdefault
    exact covers_refl []
  | some v =>
    rw [hentry] at hdefault
    obtain ⟨e, he, hdefault⟩ := bind_eq_ok_iff.mp hdefault
    obtain rfl := Except.ok.inj hdefault
    exact covers_expression v he

theorem covers_declaration {entry : ResourceEntry} {d : Declaration}
    (h : declaration entry = .ok d) :
    Covers (Value.entriesCalledNames entry.properties) (Resource.declaration d).names :=
  covers_properties entry.properties (declaration_eq_ok h).2

theorem identifiers_of_output {entry : OutputEntry} {o : Output} (h : output entry = .ok o) :
    Identifiers o.value.names := by
  obtain ⟨e, he, h⟩ := bind_eq_ok_iff.mp h
  obtain ⟨name, -, h⟩ := bind_eq_ok_iff.mp h
  obtain rfl := Except.ok.inj h
  exact identifiers_of_ofPath (mapError_eq_ok_iff.mp he)

end Conversion

namespace Manifest

open Conversion

variable {m : Manifest} {d : Document}

theorem document_eq_ok (h : m.document = .ok d) :
    List.Forall₂ (fun entry p => parameter entry = .ok p) m.parameters d.parameters ∧
    (∃ ds, List.Forall₂ (fun entry r => declaration entry = .ok r) m.resources ds ∧
      d.declarations = ds.map .declaration) ∧
    List.Forall₂ (fun entry o => output entry = .ok o) m.outputs d.outputs := by
  obtain ⟨parameters, hparameters, h⟩ := bind_eq_ok_iff.mp h
  obtain ⟨resources, hresources, h⟩ := bind_eq_ok_iff.mp h
  obtain ⟨outputs, houtputs, h⟩ := bind_eq_ok_iff.mp h
  obtain rfl := Except.ok.inj h
  have hdeclarations : (resources.map Resource.declaration).flatMap Resource.family =
      resources.map .declaration := by
    rw [List.flatMap_map, List.map_eq_flatMap]
    rfl
  exact ⟨mapM_eq_ok_iff.mp hparameters, ⟨resources, mapM_eq_ok_iff.mp hresources, hdeclarations⟩,
    mapM_eq_ok_iff.mp houtputs⟩

theorem covers_document (h : m.document = .ok d) : Covers m.calledNames d.names := by
  obtain ⟨hparameters, ⟨ds, hds, hdeclarations⟩, houtputs⟩ := document_eq_ok h
  have hresources : Covers (m.resources.flatMap (Value.entriesCalledNames ·.properties))
      (d.declarations.flatMap Resource.names) := by
    rw [hdeclarations, List.flatMap_map]
    exact covers_flatMap (hds.imp fun _ _ => covers_declaration)
  have hnone : Covers (m.outputs.flatMap fun _ => []) (d.outputs.flatMap (·.value.names)) :=
    covers_flatMap (houtputs.imp fun _ _ ho => covers_of_identifiers (identifiers_of_output ho))
  have hall := ((covers_flatMap (hparameters.imp fun _ _ => covers_parameter)).append
    hresources).append hnone
  rwa [List.flatMap_eq_nil_iff.mpr fun _ _ => rfl, List.append_nil] at hall

/-- The names of called functions reach the document unchecked, and all other names in it are
identifiers. If the called functions have identifiers too, the template is the target scope, each
parameter, each resource and the outputs, with blank lines between them and nowhere else. -/
theorem document_paragraphs (h : m.document = .ok d) :
    (∀ name ∈ m.calledNames, name ∈ d.names) ∧
      (∀ name ∈ d.names, isIdentifier name = true ∨ name ∈ m.calledNames) ∧
      (Identifiers m.calledNames → ∀ text warnings, d.render = .ok (text, warnings) →
        ∃ shown body, d.declarations.mapM Resource.declared = .ok shown ∧
          text.toList = body ++ ['\n'] ∧ paragraphs body = d.blocks shown ∧
          (paragraphs body).length = 1 + m.parameters.length + m.resources.length +
            if m.outputs.isEmpty then 0 else 1) := by
  have hcovers := covers_document h
  refine ⟨hcovers.1, hcovers.2, fun hcalled text warnings hrender => ?_⟩
  obtain ⟨shown, body, hshown, htext, hparagraphs⟩ :=
    Document.paragraphs_of_render (hcovers.identifiers_iff.mpr hcalled) hrender
  obtain ⟨hparameters, ⟨ds, hds, hdeclarations⟩, houtputs⟩ := document_eq_ok h
  have hempty : d.outputs.isEmpty = m.outputs.isEmpty := by
    rw [Bool.eq_iff_iff, List.isEmpty_iff_length_eq_zero, List.isEmpty_iff_length_eq_zero,
      houtputs.length_eq]
  refine ⟨shown, body, hshown, htext, hparagraphs, ?_⟩
  rw [hparagraphs, Document.length_blocks hshown, hdeclarations, List.length_map,
    hparameters.length_eq, hds.length_eq, hempty]

def calling (name : String) : Manifest where
  parameters := [{
    name := "suffix"
    type := .string
    default := some (.tagged "call" (.map [(.text "name", .text name)])) }]

theorem document_paragraphs_newGuid : ∃ d text shown body, (calling "newGuid").document = .ok d ∧
    d.render = .ok (text, []) ∧ text.toList = body ++ ['\n'] ∧ paragraphs body = d.blocks shown ∧
    (paragraphs body).length = 2 := by
  have hcalled : Identifiers (calling "newGuid").calledNames := by
    intro name hname
    obtain rfl := List.mem_singleton.mp hname
    decide
  obtain ⟨shown, body, -, htext, hparagraphs, hlength⟩ :=
    (document_paragraphs (m := calling "newGuid") rfl).2.2 hcalled _ _ rfl
  exact ⟨_, _, shown, body, rfl, rfl, htext, hparagraphs, hlength⟩

/-- A name with a blank line in it adds a parameter that the manifest does not have. -/
theorem document_paragraphs_injected : ∃ d text,
    (calling "f()\n\nparam extra string = g").document = .ok d ∧ ¬ Identifiers d.names ∧
      d.parameters.length = 1 ∧ d.declarations.length = 0 ∧ d.outputs.length = 0 ∧
      d.render = .ok (text, []) ∧ paragraphs text.toList.dropLast = [
        "targetScope = 'resourceGroup'".toList, "param suffix string = f()".toList,
        "param extra string = g()".toList] := by
  refine ⟨_, _, rfl, fun h => ?_, rfl, rfl, rfl, rfl, ?_⟩
  · exact absurd (h "f()\n\nparam extra string = g" (List.mem_singleton.mpr rfl)) (by decide)
  · rfl

end Manifest

end BicepTemplates
