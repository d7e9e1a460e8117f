import BicepTemplates.Proofs.Document.Blocks
import BicepTemplates.Proofs.Manifest.Calls
import BicepTemplates.Proofs.Resource.Construction

/-! # Templates of manifests

Once a manifest has become a document, only a repeated name keeps it from being rendered. Otherwise
the template shows what each entry declares, in the order of the manifest: parameters with their
converted defaults, resources with their converted properties, and outputs with their paths. Of an
existing resource only the properties that identify it are shown.
-/

namespace BicepTemplates

open Conversion

open Yaml (Value)

structure ParameterEntry.Declares (entry : ParameterEntry) (p : Parameter) : Prop where
  name_eq : p.name.text = entry.name
  type_eq : p.type = entry.type
  description_eq : p.description = entry.description
  default : Option.Rel (fun v e => expression (.parameterDefault entry.name) v = .ok e)
    entry.default p.default

def identifies (key : Value) : Bool :=
  key.string?.any identifyingKeys.contains

def ResourceEntry.shown (entry : ResourceEntry) : List (Value × Value) :=
  if entry.existing then entry.properties.filter fun e => identifies e.1
  else entry.properties

structure ResourceEntry.Declares (entry : ResourceEntry) (s : Declared) : Prop where
  name_eq : s.header.name.text = entry.name
  type_eq : s.header.type = entry.type
  existing_eq : s.header.existing = entry.existing
  body : Conversion.properties (.resource entry.name) entry.shown = .ok s.body

structure OutputEntry.Declares (entry : OutputEntry) (o : Output) : Prop where
  name_eq : o.name.text = entry.name
  type_eq : o.type = entry.type
  value : Expr.ofPath entry.value = .ok o.value

namespace Manifest

def symbols (m : Manifest) : List String :=
  m.parameters.map (·.name) ++ m.resources.map (·.name)

def outputNames (m : Manifest) : List String :=
  m.outputs.map (·.name)

end Manifest

section Entries

variable {place : Address} {text : String} {v : Value}

theorem declares_of_parameter {entry : ParameterEntry} {p : Parameter}
    (h : parameter entry = .ok p) : entry.Declares p := by
  obtain ⟨name, hname, h⟩ := bind_eq_ok_iff.mp h
  obtain ⟨default, hdefault, h⟩ := bind_eq_ok_iff.mp h
  obtain rfl := Except.ok.inj h
  refine ⟨Name.text_of_ofString (mapError_eq_ok_iff.mp hname), rfl, rfl, ?_⟩
  show Option.Rel _ entry.default default
  cases hentry : entry.default with
  | none =>
    rw [hentry] at hdefault
    obtain rfl := Except.ok.inj hdefault
    exact .none
  | some v =>
    rw [hentry] at hdefault
    obtain ⟨e, he, hdefault⟩ := bind_eq_ok_iff.mp hdefault
    obtain rfl := Except.ok.inj hdefault
    exact .some he

theorem declares_of_output {entry : OutputEntry} {o : Output} (h : output entry = .ok o) :
    entry.Declares o := by
  obtain ⟨e, he, h⟩ := bind_eq_ok_iff.mp h
  obtain ⟨name, hname, h⟩ := bind_eq_ok_iff.mp h
  obtain rfl := Except.ok.inj h
  exact ⟨Name.text_of_ofString (mapError_eq_ok_iff.mp hname), rfl, mapError_eq_ok_iff.mp he⟩

theorem name_of_property {p : Property} (h : property place text v = .ok p) : p.name = text := by
  unfold property at h
  split at h
  all_goals
    obtain ⟨_, -, h⟩ := bind_eq_ok_iff.mp h
    obtain rfl := Except.ok.inj h
    rfl

theorem properties_filter {entries : List (Value × Value)} {ps : List Property}
    (h : properties place entries = .ok ps) :
    properties place (entries.filter fun entry => identifies entry.1) =
      .ok (ps.filter fun p => identifyingKeys.contains p.name) := by
  induction entries generalizing ps with
  | nil =>
    obtain rfl := Except.ok.inj h
    rfl
  | cons entry entries ih =>
    obtain ⟨key, v⟩ := entry
    obtain ⟨name, hname, h⟩ := bind_eq_ok_iff.mp h
    obtain ⟨p, hp, h⟩ := bind_eq_ok_iff.mp h
    obtain ⟨rest, hrest, h⟩ := bind_eq_ok_iff.mp h
    obtain rfl := Except.ok.inj h
    have hkeep : identifies key = identifyingKeys.contains p.name := by
      unfold keyName at hname
      split at hname
      · next _ hkey =>
        obtain rfl := Except.ok.inj hname
        rw [identifies, hkey, name_of_property hp]
        rfl
      · cases hname
    rw [List.filter_cons, List.filter_cons, ← hkeep]
    cases identifies key with
    | false => exact ih hrest
    | true => exact bind_eq_ok_iff.mpr ⟨name, hname, bind_eq_ok_iff.mpr ⟨p, hp,
        bind_eq_ok_iff.mpr ⟨_, ih hrest, rfl⟩⟩⟩

end Entries

/-- What a plain declaration shows. It has no rules that it could break. -/
def Declaration.shown (r : Declaration) : Declared where
  header := r.header
  body := if r.header.existing then r.properties.filter fun p => identifyingKeys.contains p.name
    else r.properties

theorem Declaration.shows (r : Declaration) : (Resource.declaration r).Shows (r.shown, []) :=
  ⟨rfl, rfl⟩

theorem declares_of_declaration {entry : ResourceEntry} {r : Declaration}
    (h : declaration entry = .ok r) : entry.Declares r.shown := by
  obtain ⟨_, hnew, h⟩ := bind_eq_ok_iff.mp h
  obtain ⟨ps, hps, h⟩ := bind_eq_ok_iff.mp h
  obtain ⟨name, hname, hd⟩ := bind_eq_ok_iff.mp (mapError_eq_ok_iff.mp hnew)
  obtain rfl := Except.ok.inj hd
  obtain rfl := Except.ok.inj h
  have hname := Name.text_of_ofString hname
  have hfilter := properties_filter hps
  cases hexisting : entry.existing with
  | false =>
    refine ⟨hname, rfl, hexisting.symm, ?_⟩
    rw [ResourceEntry.shown, hexisting]
    exact hps
  | true =>
    refine ⟨hname, rfl, hexisting.symm, ?_⟩
    rw [ResourceEntry.shown, hexisting]
    exact hfilter

namespace Manifest

variable {m : Manifest} {d : Document} {e : Error}

/-- What the entries of a manifest declare, in their order. -/
structure Declares (m : Manifest) (ps : List Parameter) (shown : List Declared)
    (os : List Output) : Prop where
  parameters : List.Forall₂ ParameterEntry.Declares m.parameters ps
  resources : List.Forall₂ ResourceEntry.Declares m.resources shown
  outputs : List.Forall₂ OutputEntry.Declares m.outputs os

theorem targetScope_of_document (h : m.document = .ok d) : d.targetScope = m.targetScope := by
  obtain ⟨_, -, h⟩ := bind_eq_ok_iff.mp h
  obtain ⟨_, -, h⟩ := bind_eq_ok_iff.mp h
  obtain ⟨_, -, h⟩ := bind_eq_ok_iff.mp h
  obtain rfl := Except.ok.inj h
  rfl

/-- All resources of the document pass their checks, without warnings. -/
theorem declares_of_document (h : m.document = .ok d) : ∃ shown : List Declared,
    m.Declares d.parameters shown d.outputs ∧
      List.Forall₂ Resource.Shows d.declarations (shown.map fun s => (s, [])) := by
  obtain ⟨hparameters, ⟨rs, hrs, hdeclarations⟩, houtputs⟩ := document_eq_ok h
  refine ⟨rs.map Declaration.shown, ⟨hparameters.imp fun _ _ => declares_of_parameter, ?_,
    houtputs.imp fun _ _ => declares_of_output⟩, ?_⟩
  · rw [List.forall₂_map_right_iff]
    exact hrs.imp fun _ _ => declares_of_declaration
  · rw [hdeclarations, List.map_map, List.forall₂_map_left_iff, List.forall₂_map_right_iff]
    exact List.forall₂_same.mpr fun r _ => r.shows

theorem map_eq_of_forall₂ {α β γ : Type} {f : α → γ} {g : β → γ} {xs : List α} {ys : List β}
    (h : List.Forall₂ (fun x y => g y = f x) xs ys) : ys.map g = xs.map f := by
  rw [← List.forall₂_eq_eq_eq, List.forall₂_map_left_iff, List.forall₂_map_right_iff]
  exact h.flip

theorem symbols_of_document (h : m.document = .ok d) : d.symbols = m.symbols := by
  obtain ⟨shown, hdeclares, hshown⟩ := declares_of_document h
  have hdeclared : List.Forall₂ (fun r s => r.declared = .ok s) d.declarations shown :=
    (List.forall₂_map_right_iff.mp hshown).imp fun _ _ hs => hs.2
  calc d.symbols
    _ = d.parameters.map (·.name.text) ++ shown.map (·.header.name.text) := by
      rw [names_of_declared hdeclared]
      rfl
    _ = m.symbols := by
      rw [map_eq_of_forall₂ (hdeclares.parameters.imp fun _ _ hp => hp.name_eq),
        map_eq_of_forall₂ (hdeclares.resources.imp fun _ _ hs => hs.name_eq)]
      rfl

theorem outputNames_of_document (h : m.document = .ok d) : d.outputNames = m.outputNames := by
  obtain ⟨_, hdeclares, -⟩ := declares_of_document h
  exact map_eq_of_forall₂ (hdeclares.outputs.imp fun _ _ ho => ho.name_eq)

/-- The name is the first repeated one among the symbols, or else among the outputs. -/
def Repeats (m : Manifest) (name : String) : Prop :=
  FirstRepeat name m.symbols ∨ m.symbols.Nodup ∧ FirstRepeat name m.outputNames

theorem render_eq_error_iff_repeats (h : m.document = .ok d) :
    d.render = .error e ↔ ∃ name, e = .duplicateSymbol name ∧ m.Repeats name := by
  obtain ⟨shown, -, hshown⟩ := declares_of_document h
  unfold Repeats
  rw [Document.render_eq_error_iff, ← symbols_of_document h, ← outputNames_of_document h]
  constructor
  · intro houtcome
    cases houtcome with
    | repeatedSymbol hrepeat => exact ⟨_, rfl, .inl hrepeat⟩
    | repeatedOutput hsymbols hrepeat => exact ⟨_, rfl, .inr ⟨hsymbols, hrepeat⟩⟩
    | @failure before after r _ _ _ hd _ hfails =>
      obtain ⟨cause, hcause, -⟩ := Resource.fails_iff.mp hfails
      have hr : r ∈ d.declarations := by simp [hd]
      obtain ⟨_, hs, hvalid, -⟩ := exists_right_of_forall₂ hshown hr
      exact nomatch hvalid.symm.trans hcause
  · rintro ⟨name, rfl, hrepeat | ⟨hsymbols, hrepeat⟩⟩
    · exact .repeatedSymbol hrepeat
    · exact .repeatedOutput hsymbols hrepeat

/-- Rendering fails exactly if two parameters or resources or two outputs share a name, and reports
the first repeated one. Otherwise each entry is shown at its place. -/
theorem render_document (h : m.document = .ok d) :
    ((∃ e, d.render = .error e) ↔ ¬ m.symbols.Nodup ∨ ¬ m.outputNames.Nodup) ∧
    (∀ e, d.render = .error e ↔ ∃ name, e = .duplicateSymbol name ∧ m.Repeats name) ∧
    (m.symbols.Nodup → m.outputNames.Nodup → ∃ text ps shown os, d.render = .ok (text, []) ∧
      m.Declares ps shown os ∧ text.toList =
        "targetScope = ".toList ++ Quoted.encode m.targetScope.text.toList ++
          (ps.flatMap fun p => ['\n', '\n'] ++ p.chars 0) ++
          (shown.flatMap fun s => ['\n', '\n'] ++ s.chars 0) ++ outputsChars os) := by
  have htemplate : m.symbols.Nodup → m.outputNames.Nodup → ∃ shown,
      m.Declares d.parameters shown d.outputs ∧
        d.render = .ok (String.ofList (d.chars shown), []) := by
    intro hsymbols houtputs
    rw [← symbols_of_document h] at hsymbols
    rw [← outputNames_of_document h] at houtputs
    obtain ⟨shown, hdeclares, hshown⟩ := declares_of_document h
    have hblocks : (shown.map fun s => (s, ([] : List Warning))).map (·.1) = shown := by
      rw [List.map_map]
      exact List.map_id shown
    have hwarnings : (shown.map fun s => (s, ([] : List Warning))).flatMap (·.2) = [] := by
      rw [List.flatMap_map]
      exact List.flatMap_eq_nil_iff.mpr fun _ _ => rfl
    refine ⟨shown, hdeclares, ?_⟩
    rw [Document.render_of_shows hsymbols houtputs hshown, hblocks, hwarnings]
  refine ⟨⟨?_, ?_⟩, fun e => render_eq_error_iff_repeats h, fun hsymbols houtputs => ?_⟩
  · rintro ⟨e, he⟩
    by_contra hnodup
    obtain ⟨hsymbols, houtputs⟩ := not_or.mp hnodup
    obtain ⟨_, -, hrender⟩ := htemplate (not_not.mp hsymbols) (not_not.mp houtputs)
    exact nomatch hrender.symm.trans he
  · intro hrepeat
    cases hrender : d.render with
    | error e => exact ⟨e, rfl⟩
    | ok template =>
      cases Document.render_eq_ok_iff.mp hrender with
      | template hsymbols houtputs hshown =>
        rw [symbols_of_document h] at hsymbols
        rw [outputNames_of_document h] at houtputs
        exact absurd hrepeat (not_or.mpr ⟨not_not.mpr hsymbols, not_not.mpr houtputs⟩)
  · obtain ⟨shown, hdeclares, hrender⟩ := htemplate hsymbols houtputs
    refine ⟨_, _, shown, _, hrender, hdeclares, ?_⟩
    rw [String.toList_ofList, ← targetScope_of_document h]
    rfl

/-- An existing resource, which also has a property that does not identify it, and one output any
number of times. -/
def referring (n : Nat) : Manifest where
  parameters := [{ name := "vaultName", type := .string, default := some (.text "keys") }]
  resources := [{
    name := "vault"
    type := "Provider/vaults@2023-07-01"
    existing := true
    properties := [(.text "name", .tagged "ref" (.text "vaultName")),
      (.text "sku", .text "standard")] }]
  outputs := List.replicate n { name := "uri", type := .string, value := "vault.properties.uri" }

def referringDocument (n : Nat) : Document where
  parameters := [{
    name := ⟨"vaultName", by decide⟩
    type := .string
    default := some (.text "keys") }]
  resources := [.declaration {
    header := {
      name := ⟨"vault", by decide⟩
      type := "Provider/vaults@2023-07-01"
      existing := true }
    properties := [.scalar "name" (.symbol "vaultName"), .text "sku" "standard"] }]
  outputs := List.replicate n {
    name := ⟨"uri", by decide⟩
    type := .string
    value := .member (.member (.symbol "vault") "properties") "uri" }

set_option maxRecDepth 4000 in
/-- With one output the manifest has a template, and with the same output again it has none. -/
theorem render_document_referring : ∃ text,
    (referring 1).document = .ok (referringDocument 1) ∧
    (referringDocument 1).render = .ok (text, []) ∧
    text.toList = ("targetScope = 'resourceGroup'\n\nparam vaultName string = 'keys'\n\n" ++
      "resource vault 'Provider/vaults@2023-07-01' existing = \x7b\n  name: vaultName\n\x7d\n\n" ++
      "output uri string = vault.properties.uri\n").toList ∧
    (referring 2).document = .ok (referringDocument 2) ∧
    (referringDocument 2).render = .error (.duplicateSymbol "uri") := by
  have hone : (referring 1).document = .ok (referringDocument 1) := rfl
  have htwo : (referring 2).document = .ok (referringDocument 2) := rfl
  obtain ⟨text, ps, shown, os, hrender, -, -⟩ :=
    (render_document hone).2.2 (by decide) (by decide)
  have hrepeat : (referring 2).Repeats "uri" :=
    .inr ⟨by decide, ["uri"], [], rfl, by decide, by decide⟩
  refine ⟨text, hone, hrender, ?_, htwo, ((render_document htwo).2.1 _).mpr ⟨"uri", rfl, hrepeat⟩⟩
  obtain ⟨rfl, -⟩ := Prod.mk.inj (Except.ok.inj hrender)
  rfl

end Manifest

end BicepTemplates
