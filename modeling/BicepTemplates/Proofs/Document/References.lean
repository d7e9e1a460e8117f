import BicepTemplates.Proofs.Document.Blocks
import BicepTemplates.Proofs.Registry.History
import Mathlib.Data.List.Flatten

/-! # References to the resources of other templates

A document is changed step by step, in any order: parameters, resources and outputs are added,
identifiers are allocated, and references to existing resources are asked for. A reference that is
refused leaves no trace. One that is granted stays declared under the symbol it was given, and in a
template no other one has this symbol.
-/

namespace BicepTemplates

/-- A reference that was asked for, and the symbol that was given for it. -/
structure Referral where
  type : String
  reference : Expr
  symbol : Expr

def Referral.existing (q : Referral) : ExistingResource := .new q.type q.reference

namespace Document

/-- A change to a document. -/
inductive Edit where
  | parameter (p : Parameter)
  | resource (r : Resource)
  | output (o : Output)
  | existing (type : String) (reference : Expr)
  | allocation (q : Registry.Request)

/-- A document after some changes, with the references it has granted, in order. -/
structure Edited where
  document : Document
  referrals : List Referral := []

namespace Edited

def edit (s : Edited) : Edit → Edited
  | .parameter p => { s with document := s.document.addParameter p }
  | .resource r => { s with document := s.document.addResource r }
  | .output o => { s with document := s.document.addOutput o }
  | .existing type reference =>
    match (addExisting type reference).run s.document with
    | (.ok symbol, document) => ⟨document, s.referrals ++ [⟨type, reference, symbol⟩]⟩
    | (.error _, document) => { s with document }
  | .allocation q => { s with document := ((allocating (q.run identifier)).run s.document).2 }

def ofEdits (d : Document) (edits : List Edit) : Edited :=
  edits.foldl edit ⟨d, []⟩

end Edited

section Steps

variable {type : String} {reference symbol : Expr} {d : Document} {e : Error} {s : Edited}

theorem run_allocating {α : Type} (step : Allocation α) (d : Document) :
    (allocating step).run d =
      ((step.run d.registry).1, { d with registry := (step.run d.registry).2 }) :=
  rfl

theorem run_addExisting (type : String) (reference : Expr) (d : Document) :
    (addExisting type reference).run d =
      match (Registry.allocate reference.seed).run d.registry with
      | (.ok _, registry) =>
        (.ok (ExistingResource.new type reference).header.name.reference,
          addResource (.existing (.new type reference)) { d with registry })
      | (.error e, registry) => (.error e, { d with registry }) := by
  have hallocate : (ExistingResource.allocate type reference).run d.registry =
      (((Registry.allocate reference.seed).run d.registry).1.map fun _ => .new type reference,
        ((Registry.allocate reference.seed).run d.registry).2) :=
    run_return_of_run_eq _ (Registry.run_allocateName ExistingResource.stem _ .digest d.registry)
  rw [addExisting, run_bind, run_allocating, hallocate]
  cases (Registry.allocate reference.seed).run d.registry with
  | mk answer registry => cases answer <;> rfl

/-- A reference is declared and its seed registered, or the document stays as it was. -/
theorem run_addExisting_cases (type : String) (reference : Expr) (d : Document) :
    (∃ registry, (addExisting type reference).run d =
        (.ok (ExistingResource.new type reference).header.name.reference,
          addResource (.existing (.new type reference)) { d with registry }) ∧
      d.registry.Grows identifier registry ∧
      registry.seedOf? (identifier reference.seed) = some reference.seed) ∨
    ∃ e, (addExisting type reference).run d = (.error e, d) := by
  rw [run_addExisting]
  rcases Registry.run_allocateBy_cases identifier reference.seed d.registry with
    ⟨registry, hrun, hgrows, hseed⟩ | ⟨e, hrun⟩
  · exact .inl ⟨registry, by rw [Registry.allocate, hrun], hgrows, hseed⟩
  · exact .inr ⟨e, by rw [Registry.allocate, hrun]⟩

theorem eq_of_run_addExisting_error {d' : Document}
    (h : (addExisting type reference).run d = (.error e, d')) : d' = d := by
  rcases run_addExisting_cases type reference d with ⟨_, hrun, -, -⟩ | ⟨_, hrun⟩
  · exact nomatch hrun.symm.trans h
  · exact (Prod.mk.inj (hrun.symm.trans h)).2.symm

theorem Edited.edit_existing_of_ok
    (h : (addExisting type reference).run s.document = (.ok symbol, d)) :
    s.edit (.existing type reference) = ⟨d, s.referrals ++ [⟨type, reference, symbol⟩]⟩ := by
  simp only [edit, h]

theorem Edited.edit_existing_of_error
    (h : (addExisting type reference).run s.document = (.error e, s.document)) :
    s.edit (.existing type reference) = s := by
  simp only [edit, h]

end Steps

/-- The references that were granted are declared in order, and their seeds are registered. -/
structure Edited.Lawful (s : Edited) : Prop where
  symbol_eq : ∀ q ∈ s.referrals, q.symbol = q.existing.header.name.reference
  declared : (s.referrals.map fun q => Resource.existing q.existing).Sublist s.document.resources
  registered : ∀ q ∈ s.referrals,
    s.document.registry.seedOf? (identifier q.reference.seed) = some q.reference.seed

namespace Edited

variable {s : Edited} {d : Document} {p q : Referral} {text : String} {shown : List Declared}

theorem lawful_nil (d : Document) : Lawful ⟨d, []⟩ where
  symbol_eq := List.forall_mem_nil _
  declared := List.nil_sublist _
  registered := List.forall_mem_nil _

theorem Lawful.grow (h : s.Lawful) (hresources : s.document.resources.Sublist d.resources)
    (hregistry : s.document.registry.Grows identifier d.registry) :
    Lawful ⟨d, s.referrals⟩ where
  symbol_eq := h.symbol_eq
  declared := h.declared.trans hresources
  registered q hq := hregistry.seedOf?_eq (h.registered q hq)

theorem Lawful.edit (h : s.Lawful) (e : Edit) : (s.edit e).Lawful := by
  cases e with
  | parameter p => exact h.grow (List.Sublist.refl _) .refl
  | resource r => exact h.grow (List.sublist_append_left _ _) .refl
  | output o => exact h.grow (List.Sublist.refl _) .refl
  | allocation q => exact h.grow (List.Sublist.refl _) (q.grows _)
  | existing type reference =>
    rcases run_addExisting_cases type reference s.document with
      ⟨registry, hrun, hgrows, hseed⟩ | ⟨e, hrun⟩
    · -- the new reference comes last among the resources, as it does among those granted
      rw [edit_existing_of_ok hrun]
      have hkept : Lawful ⟨{ s.document with registry }, s.referrals⟩ :=
        h.grow (List.Sublist.refl _) hgrows
      constructor
      case symbol_eq =>
        exact List.forall_mem_append.mpr ⟨hkept.symbol_eq, List.forall_mem_singleton.mpr rfl⟩
      case declared =>
        rw [List.map_append]
        exact hkept.declared.append (List.Sublist.refl _)
      case registered =>
        exact List.forall_mem_append.mpr ⟨hkept.registered, List.forall_mem_singleton.mpr hseed⟩
    · rw [edit_existing_of_error hrun]
      exact h

theorem Lawful.foldl (h : s.Lawful) (edits : List Edit) :
    (edits.foldl Edited.edit s).Lawful := by
  induction edits generalizing s with
  | nil => exact h
  | cons e edits ih => exact ih (h.edit e)

theorem ofEdits_concat (d : Document) (edits : List Edit) (e : Edit) :
    ofEdits d (edits ++ [e]) = (ofEdits d edits).edit e :=
  List.foldl_concat ..

theorem lawful_ofEdits (d : Document) (edits : List Edit) : (ofEdits d edits).Lawful :=
  (lawful_nil d).foldl edits

theorem Lawful.seed_eq (h : s.Lawful) (hp : p ∈ s.referrals) (hq : q ∈ s.referrals)
    (hsymbol : p.symbol = q.symbol) : p.reference.seed = q.reference.seed := by
  rw [h.symbol_eq p hp, h.symbol_eq q hq] at hsymbol
  have hname : p.existing.header.name = q.existing.header.name :=
    Name.eq_of_text_eq (Expr.symbol.inj hsymbol)
  have hregistered := h.registered p hp
  have hidentifier : identifier p.reference.seed = identifier q.reference.seed :=
    Name.identify_eq_of_generated_eq hname
  rw [hidentifier, h.registered q hq] at hregistered
  exact (Option.some.inj hregistered).symm

theorem Lawful.pairwise_name_ne (h : s.Lawful) (hb : s.document.Blocks text shown) :
    s.referrals.Pairwise fun p q =>
      p.existing.header.name.text ≠ q.existing.header.name.text := by
  have hnodup := (List.nodup_append.mp hb.symbols_nodup).2.1
  rw [names_of_declared hb.declared] at hnodup
  have hsublist := (h.declared.flatMap Resource.family).map (·.name.text)
  have hfamilies : ∀ qs : List Referral,
      ((qs.map fun q => Resource.existing q.existing).flatMap Resource.family).map (·.name.text) =
        qs.map (·.existing.header.name.text) := by
    -- a reference owns nothing, so its family is itself
    intro qs
    rw [List.flatMap_map, List.map_flatMap]
    exact (List.map_eq_flatMap).symm
  rw [hfamilies] at hsublist
  exact List.pairwise_map.mp (hnodup.sublist hsublist)

theorem Lawful.nodup_symbols (h : s.Lawful) (hb : s.document.Blocks text shown) :
    (s.referrals.map (·.symbol)).Nodup := by
  refine List.pairwise_map.mpr ((h.pairwise_name_ne hb).imp_of_mem fun {p q} hp hq hne heq => ?_)
  rw [h.symbol_eq p hp, h.symbol_eq q hq] at heq
  exact hne (Expr.symbol.inj heq)

theorem Lawful.nodup_seeds (h : s.Lawful) (hb : s.document.Blocks text shown) :
    (s.referrals.map (·.reference.seed)).Nodup := by
  refine List.pairwise_map.mpr ((h.pairwise_name_ne hb).imp fun {p q} hne heq => hne ?_)
  exact congrArg (fun seed => (Name.generated ExistingResource.stem seed).text) heq

end Edited

/-- Whatever is done to a document, a reference that is refused leaves it as it was, and no symbol
is given for two seeds. If there is a template at the end, the references that were granted have
symbols of their own and different seeds. Each symbol is declared once, by a block that shows the
type and the reference that were asked for. -/
theorem Edited.ofEdits_referrals (d : Document) (edits : List Edit) :
    let s := ofEdits d edits
    (∀ type reference e d', (addExisting type reference).run s.document = (.error e, d') →
        d' = s.document) ∧
      (∀ p ∈ s.referrals, ∀ q ∈ s.referrals, p.symbol = q.symbol →
        p.reference.seed = q.reference.seed) ∧
      ∀ text warnings, s.document.render = .ok (text, warnings) →
        (s.referrals.map (·.symbol)).Nodup ∧ (s.referrals.map (·.reference.seed)).Nodup ∧
        ∃ shown, s.document.Blocks text shown ∧
          ∀ q ∈ s.referrals, ∃ name : Name, q.symbol = name.reference ∧
            s.document.symbols.count name.text = 1 ∧
            shown.filter (fun t => t.header.name = name) =
              [⟨⟨name, q.type, true⟩, [.scalar "name" q.reference]⟩] := by
  intro s
  have hlawful : s.Lawful := lawful_ofEdits d edits
  refine ⟨fun _ _ _ _ => eq_of_run_addExisting_error, fun _ hp _ hq => hlawful.seed_eq hp hq,
    fun text warnings h => ?_⟩
  obtain ⟨⟨shown, hb⟩, -⟩ := blocks_of_render h
  refine ⟨hlawful.nodup_symbols hb, hlawful.nodup_seeds hb, shown, hb, fun q hq => ?_⟩
  have hresource : Resource.existing q.existing ∈ s.document.declarations :=
    mem_declarations (hlawful.declared.subset (List.mem_map_of_mem hq)) _
      (List.mem_singleton_self _)
  obtain ⟨t, ht, hheader, hbody⟩ := hb.exists_block hresource
  obtain rfl : t = ⟨q.existing.header, [.scalar "name" q.reference]⟩ := by
    cases t
    cases hheader
    cases Except.ok.inj hbody
    rfl
  exact ⟨q.existing.header.name, hlawful.symbol_eq q hq, hb.count_symbols hresource,
    hb.filter_name ht⟩

/-- Of two seeds with one identifier, the second is refused. The template declares the first. -/
theorem Edited.ofEdits_referrals_collision :
    let maps := "Microsoft.Maps/accounts@2023-06-01"
    let first : Edit := .existing maps (.text "vault166")
    let edits : List Edit := [first, .existing maps (.text "maps952")]
    (∃ e, (addExisting maps (.text "maps952")).run (ofEdits {} [first]).document =
      (.error e, (ofEdits {} [first]).document)) ∧
      ∃ text warnings shown name, (ofEdits {} edits).document.render = .ok (text, warnings) ∧
        (ofEdits {} edits).referrals = [⟨maps, .text "vault166", name.reference⟩] ∧
        (ofEdits {} edits).document.Blocks text shown ∧
        shown.filter (fun t => t.header.name = name) =
          [⟨⟨name, maps, true⟩, [.text "name" "vault166"]⟩] := by
  intro maps first edits
  let existing := ExistingResource.new maps (.text "vault166")
  let granted : Document := {
    resources := [.existing existing]
    registry := ⟨[(identifier "vault166", "vault166")]⟩ }
  let referral : Referral := ⟨maps, .text "vault166", existing.header.name.reference⟩
  have hfirst : ofEdits {} [first] = ⟨granted, [referral]⟩ := by
    have hrun : (addExisting maps (.text "vault166")).run {} =
        (.ok existing.header.name.reference, granted) := by
      rw [run_addExisting, Registry.allocate, Registry.run_allocateBy]
      rfl
    exact (ofEdits_concat {} [] first).trans (edit_existing_of_ok hrun)
  have hregistered : granted.registry.seedOf? (identifier "maps952") = some "vault166" := by
    simp [granted, Registry.seedOf?, Registry.identifier_vault166]
  obtain ⟨e, hrefused⟩ : ∃ e, (addExisting maps (.text "maps952")).run granted =
      (.error e, granted) := by
    rcases run_addExisting_cases maps (.text "maps952") granted with
      ⟨registry, -, hgrows, hseed⟩ | hrefused
    · have hkept := hgrows.seedOf?_eq hregistered
      exact absurd (Option.some.inj (hkept.symm.trans hseed)) (by decide)
    · exact hrefused
  have hedits : ofEdits {} edits = ⟨granted, [referral]⟩ := by
    have hconcat := ofEdits_concat {} [first] (.existing maps (.text "maps952"))
    rwa [hfirst, edit_existing_of_error (s := ⟨granted, [referral]⟩) hrefused] at hconcat
  have hshown : List.Forall₂ Resource.Shows granted.declarations
      [(⟨existing.header, [.text "name" "vault166"]⟩, [])] := .cons ⟨rfl, rfl⟩ .nil
  have hsymbols : granted.symbols.Nodup := List.nodup_singleton _
  have hrender := render_of_shows hsymbols List.nodup_nil hshown
  obtain ⟨-, -, htemplate⟩ := ofEdits_referrals {} edits
  rw [hedits] at htemplate
  obtain ⟨-, -, shown, hb, hreferrals⟩ := htemplate _ _ hrender
  obtain ⟨name, hname, -, hblock⟩ := hreferrals referral (List.mem_singleton_self _)
  rw [hfirst, hedits]
  exact ⟨⟨e, hrefused⟩, _, _, shown, name, hrender, by rw [← hname], hb, hblock⟩

end Document

end BicepTemplates
