import BicepTemplates.Proofs.Azure.Cosmos.Ownership
import BicepTemplates.Proofs.Resource.Construction
import BicepTemplates.Proofs.Resource.Registration

/-! # What is shown of an existing resource

A resource that exists already is declared with its name, parent or scope, and with nothing else.
Only plain declarations, references and vaults are ever marked as existing. A declaration may be
marked at any time, and the mark may be taken back. It keeps all its properties, and what it shows
depends on the last mark alone.
-/

namespace BicepTemplates

open Cosmos Construction

/-- What can be done to a declaration. Its header is open to every change. -/
inductive Declaration.Edit where
  | add (p : Property)
  | existing
  | setExisting (existing : Bool)
  | rename (text : String)
  | setHeader (header : Header)

namespace Declaration

namespace Edit

/-- A name that is refused changes nothing. -/
def apply (d : Declaration) : Edit → Declaration
  | add p => d.add p
  | existing => d.existing
  | setExisting b => { d with header := { d.header with existing := b } }
  | rename text => { d with header := ((Header.rename text).run d.header).2 }
  | setHeader header => { d with header }

def added? : Edit → Option Property
  | add p => some p
  | _ => none

def mark? : Edit → Option Bool
  | existing => some true
  | setExisting b => some b
  | setHeader header => some header.existing
  | _ => none

end Edit

def edit (edits : List Edit) (d : Declaration) : Declaration :=
  edits.foldl Edit.apply d

/-- What was added, in order. -/
def added (edits : List Edit) : List Property :=
  edits.filterMap Edit.added?

def marked (edits : List Edit) : Bool :=
  (edits.filterMap Edit.mark?).getLast?.getD false

end Declaration

/-- The resources that the library makes, by any calls in any order. What an account or a database
owns may be taken out, worked on and put back. -/
inductive Resource.Built : Resource → Prop where
  | declaration {name type : String} {d : Declaration} (h : Declaration.new name type = .ok d)
      (edits : List Declaration.Edit) : Built (declaration (d.edit edits))
  | existing (type : String) (reference : Expr) : Built (existing (.new type reference))
  | existingWithSeed (type seed : String) (reference : Expr) :
      Built (existing (.withSeed type seed reference))
  | existingAllocated {type : String} {reference : Expr} {x : ExistingResource} {s s' : Registry}
      (h : (ExistingResource.allocate type reference).run s = (.ok x, s')) : Built (existing x)
  | asExisting {r : Resource} (hr : Built r) (reference : Expr) :
      Built (existing (r.asExisting reference))
  | newContainer {d : Database} {name : String} {c : Container} (hd : Built (database d))
      (h : d.newContainer name = .ok c) : Built (container c)
  | configureContainer {c c' : Container} (hc : Built (container c)) (h : c.Configured c') :
      Built (container c')
  | newDatabase {a : Account} {name : String} {d : Database} (ha : Built (account a))
      (h : a.newDatabase name = .ok d) : Built (database d)
  | configureDatabase {d d' : Database} (hd : Built (database d)) (h : d.Configured d') :
      Built (database d')
  | addContainer {d : Database} {c : Container} (hd : Built (database d))
      (hc : Built (container c)) : Built (database (d.addContainer c))
  | putContainer {d : Database} {c : Container} (hd : Built (database d))
      (hc : Built (container c)) (i : Nat) :
      Built (database { d with containers := d.containers.set i c })
  | newAccount (accountName : String) : Built (account (.new accountName))
  | configureAccount {a a' : Account} (ha : Built (account a)) (h : a.Configured a') :
      Built (account a')
  | withSymbol {a a' : Account} {symbol : String} (ha : Built (account a))
      (h : a.withSymbol symbol = .ok a') : Built (account a')
  | setServerless {a : Account} (ha : Built (account a)) (serverless : Bool) :
      Built (account (a.setServerless serverless))
  | withDevelopmentDefaults {a : Account} (ha : Built (account a)) :
      Built (account a.withDevelopmentDefaults)
  | addDatabase {a : Account} {d : Database} (ha : Built (account a)) (hd : Built (database d)) :
      Built (account (a.addDatabase d))
  | putDatabase {a : Account} {d : Database} (ha : Built (account a)) (hd : Built (database d))
      (i : Nat) : Built (account { a with databases := a.databases.set i d })
  | child {r c : Resource} (hr : Built r) (hc : c ∈ r.children) : Built c
  | dataGrant {name : String} {g : DataGrant} (h : DataGrant.new name = .ok g)
      (scope : Option DataScope) (role : Option DataRole) (principalId : Option Expr) :
      Built (dataGrant { g with scope, role, principalId })
  | identity (publicName : String) : Built (identity (.new publicName))
  | identityAllocated {publicName : String} {x : ManagedIdentity} {s s' : Registry}
      (h : (ManagedIdentity.allocate publicName).run s = (.ok x, s')) : Built (identity x)
  | vault : Built (vault .new)
  | vaultExisting {v : Vault} (hv : Built (vault v)) (name : Expr) :
      Built (vault (v.existing name))
  | roleAssignment (a : Assignment) : Built (roleAssignment (.new a))
  | roleAssignmentAllocated {a : Assignment} {x : RoleAssignment} {s s' : Registry}
      (h : (RoleAssignment.allocate a).run s = (.ok x, s')) : Built (roleAssignment x)
  | maps (accountName sku kind : String) (disableLocalAuth : Bool) :
      Built (maps { MapsAccount.new accountName with sku, kind, disableLocalAuth })

section Marks

theorem Header.run_rename (text : String) (h : Header) :
    (rename text).run h = match Name.ofString text with
      | .ok name => (.ok (), { h with name })
      | .error e => (.error e, h) := by
  rw [rename, run_bind]
  cases Name.ofString text <;> rfl

theorem Header.existing_rename (text : String) (h : Header) :
    ((Header.rename text).run h).2.existing = h.existing := by
  rw [run_rename]
  cases Name.ofString text <;> rfl

namespace Declaration

theorem Edit.properties_apply (e : Edit) (d : Declaration) :
    (e.apply d).properties = d.properties ++ e.added?.toList := by
  cases e with
  | add p => rfl
  | _ => exact (List.append_nil _).symm

theorem Edit.existing_apply (e : Edit) (d : Declaration) :
    (e.apply d).header.existing = e.mark?.getD d.header.existing := by
  cases e with
  | rename text => exact Header.existing_rename text d.header
  | _ => rfl

theorem properties_edit (edits : List Edit) (d : Declaration) :
    (d.edit edits).properties = d.properties ++ added edits := by
  induction edits generalizing d with
  | nil => exact (List.append_nil _).symm
  | cons e edits ih =>
    have hadded : added (e :: edits) = e.added?.toList ++ added edits := by
      cases he : e.added? <;> simp [added, he]
    rw [hadded, ← List.append_assoc, ← e.properties_apply d]
    exact ih (e.apply d)

theorem existing_edit (edits : List Edit) (d : Declaration) :
    (d.edit edits).header.existing =
      (edits.filterMap Edit.mark?).getLast?.getD d.header.existing := by
  induction edits generalizing d with
  | nil => rfl
  | cons e edits ih =>
    have hlast : (List.filterMap Edit.mark? (e :: edits)).getLast?.getD d.header.existing =
        (edits.filterMap Edit.mark?).getLast?.getD (e.mark?.getD d.header.existing) := by
      cases he : e.mark? <;> simp [he, List.getLast?_cons]
    rw [hlast, ← e.existing_apply d]
    exact ih (e.apply d)

theorem adds_construct (d : Declaration) : d.construct.Adds (if d.header.existing then
    d.properties.filter fun p => identifyingKeys.contains p.name else d.properties) :=
  adds_addAll _

end Declaration

end Marks

section Unmarked

structure Cosmos.Database.Unmarked (d : Database) : Prop where
  own : d.header.existing = false
  containers : ∀ c ∈ d.containers, c.header.existing = false

structure Cosmos.Account.Unmarked (a : Account) : Prop where
  own : a.header.existing = false
  databases : ∀ d ∈ a.databases, d.Unmarked

/-- Declarations, references and vaults can be marked as existing, but nothing else is. -/
def Resource.MarkedRightly : Resource → Prop
  | account a => a.Unmarked
  | database d => d.Unmarked
  | container c => c.header.existing = false
  | dataGrant g => g.header.existing = false
  | identity i => i.header.existing = false
  | roleAssignment x => x.header.existing = false
  | maps m => m.header.existing = false
  | _ => True

variable {d : Database} {a a' : Account}

theorem Cosmos.Database.Unmarked.setAccount (h : d.Unmarked) (name : Name) :
    (d.setAccount name).Unmarked :=
  ⟨h.own, List.forall_mem_map.mpr h.containers⟩

theorem Cosmos.Database.Unmarked.setServerless (h : d.Unmarked) (b : Bool) :
    (d.setServerless b).Unmarked :=
  ⟨h.own, List.forall_mem_map.mpr h.containers⟩

namespace Cosmos.Account.Unmarked

theorem withSymbol (h : a.Unmarked) {symbol : String} (hs : a.withSymbol symbol = .ok a') :
    a'.Unmarked := by
  obtain ⟨name, -, ha⟩ := bind_eq_ok_iff.mp hs
  obtain rfl := Except.ok.inj ha
  exact ⟨h.own, List.forall_mem_map.mpr fun d hd => (h.databases d hd).setAccount name⟩

theorem setServerless (h : a.Unmarked) (b : Bool) : (a.setServerless b).Unmarked :=
  ⟨h.own, List.forall_mem_map.mpr fun d hd => (h.databases d hd).setServerless b⟩

theorem addDatabase (h : a.Unmarked) (hd : d.Unmarked) : (a.addDatabase d).Unmarked := by
  refine ⟨h.own, List.forall_mem_append.mpr ⟨h.databases, List.forall_mem_singleton.mpr ?_⟩⟩
  exact (hd.setAccount a.header.name).setServerless a.serverless

end Cosmos.Account.Unmarked

theorem Resource.MarkedRightly.child {r c : Resource} (h : r.MarkedRightly) (hc : c ∈ r.children) :
    c.MarkedRightly := by
  cases r with
  | account a =>
    obtain ⟨d, hd, rfl⟩ := List.mem_map.mp hc
    exact h.databases d hd
  | database d =>
    obtain ⟨c, hd, rfl⟩ := List.mem_map.mp hc
    exact h.containers c hd
  | _ => exact absurd hc List.not_mem_nil

theorem Resource.Built.markedRightly {r : Resource} (h : r.Built) : r.MarkedRightly := by
  induction h with
  | newContainer _ h =>
    obtain ⟨name, -, hc⟩ := bind_eq_ok_iff.mp h
    obtain rfl := Except.ok.inj hc
    rfl
  | configureContainer _ h ih => exact (congrArg Header.existing h.header_eq).trans ih
  | newDatabase _ h =>
    obtain ⟨name, -, hd⟩ := bind_eq_ok_iff.mp h
    obtain rfl := Except.ok.inj hd
    exact ⟨rfl, List.forall_mem_nil _⟩
  | configureDatabase _ h ih =>
    refine ⟨(congrArg Header.existing h.header_eq).trans ih.own, ?_⟩
    rw [h.containers_eq]
    exact ih.containers
  | addContainer _ _ ihd ihc =>
    exact ⟨ihd.own, List.forall_mem_append.mpr ⟨ihd.containers, List.forall_mem_singleton.mpr ihc⟩⟩
  | putContainer _ _ i ihd ihc =>
    refine ⟨ihd.own, fun c hc => ?_⟩
    rcases List.mem_or_eq_of_mem_set hc with hold | rfl
    · exact ihd.containers c hold
    · exact ihc
  | newAccount accountName => exact ⟨rfl, List.forall_mem_nil _⟩
  | configureAccount _ h ih =>
    refine ⟨(congrArg Header.existing h.header_eq).trans ih.own, ?_⟩
    rw [h.databases_eq]
    exact ih.databases
  | withSymbol _ h ih => exact ih.withSymbol h
  | setServerless _ b ih => exact ih.setServerless b
  | withDevelopmentDefaults _ ih =>
    exact ⟨ih.own, (ih.setServerless true).databases⟩
  | addDatabase _ _ iha ihd => exact iha.addDatabase ihd
  | putDatabase _ _ i iha ihd =>
    refine ⟨iha.own, fun d hd => ?_⟩
    rcases List.mem_or_eq_of_mem_set hd with hold | rfl
    · exact iha.databases d hold
    · exact ihd
  | child _ hc ih => exact ih.child hc
  | dataGrant h =>
    obtain ⟨name, -, hg⟩ := bind_eq_ok_iff.mp h
    obtain rfl := Except.ok.inj hg
    rfl
  | identity publicName => rfl
  | identityAllocated h =>
    obtain rfl := ManagedIdentity.eq_of_run_allocate h
    rfl
  | roleAssignment a => rfl
  | roleAssignmentAllocated h =>
    obtain ⟨rfl, -⟩ := RoleAssignment.registered_of_run_allocate h
    rfl
  | maps accountName sku kind disableLocalAuth => rfl
  | _ => trivial

end Unmarked

namespace Resource

variable {r : Resource} {body : List Property}

theorem eq_of_adds {ps : List Property} (hbody : r.construct.run [] = (.ok (), body))
    (h : r.construct.Adds ps) : body = ps :=
  (Prod.mk.inj (hbody.symm.trans (h []))).2

/-- Once it is marked, a resource of any kind shows nothing but what identifies it. -/
theorem MarkedRightly.identifying (hr : r.MarkedRightly) (h : r.header.existing = true)
    (hbody : r.construct.run [] = (.ok (), body)) : ∀ p ∈ body, p.name ∈ identifyingKeys := by
  have hnever : r.header.existing = false → ∀ p ∈ body, p.name ∈ identifyingKeys :=
    fun hf => nomatch hf.symm.trans h
  cases r with
  | declaration d =>
    have hmarked : d.header.existing = true := h
    obtain rfl := eq_of_adds hbody d.adds_construct
    rw [if_pos hmarked]
    intro p hp
    simpa using (List.mem_filter.mp hp).2
  | existing x =>
    obtain rfl := eq_of_adds hbody (adds_add _)
    simp [identifyingKeys, Property.name]
  | vault v =>
    obtain rfl := eq_of_adds hbody (adds_addAll _)
    cases v.publicName <;> simp [identifyingKeys, Property.name]
  | account a => exact hnever hr.own
  | database d => exact hnever hr.own
  | _ => exact hnever hr

/-- Whatever calls have made a resource, if it is marked as existing then all it constructs is its
name, its parent or its scope. Of a declaration, these are all properties with such a name that were
ever added, in order, before the mark or after it. A declaration that is not marked in the end shows
all its properties. -/
theorem identifying_of_construct :
    (∀ (r : Resource) (body : List Property), r.Built → r.header.existing = true →
      r.construct.run [] = (.ok (), body) → ∀ p ∈ body, p.name ∈ identifyingKeys) ∧
    ∀ (name type : String) (d : Declaration) (edits : List Declaration.Edit),
      Declaration.new name type = .ok d →
        (d.edit edits).header.existing = Declaration.marked edits ∧
        (declaration (d.edit edits)).construct.run [] = (.ok (),
          if Declaration.marked edits then
            (Declaration.added edits).filter fun p => identifyingKeys.contains p.name
          else Declaration.added edits) := by
  refine ⟨fun r body hr h hbody => hr.markedRightly.identifying h hbody, ?_⟩
  intro name type d edits hd
  obtain ⟨symbol, -, hd⟩ := bind_eq_ok_iff.mp hd
  obtain rfl := Except.ok.inj hd
  let d : Declaration := { header := { name := symbol, type } }
  have hexisting : (d.edit edits).header.existing = Declaration.marked edits :=
    Declaration.existing_edit edits d
  have hproperties : (d.edit edits).properties = Declaration.added edits :=
    Declaration.properties_edit edits d
  have hrun := (d.edit edits).adds_construct []
  rw [hexisting, hproperties] at hrun
  exact ⟨hexisting, hrun⟩

/-- A declaration that is marked between two properties, and on whose mark someone went back and
forth, keeps its name and leaves out its location. A vault shows its name. -/
theorem identifying_of_construct_vault :
    let edits : List Declaration.Edit := [.add (.scalar "location" location), .existing,
      .add (.text "name" "store"), .setExisting false, .rename "no name", .setExisting true]
    ∃ d, Declaration.new "store" "Microsoft.Storage/storageAccounts@2023-01-01" = .ok d ∧
      (declaration (d.edit edits)).construct.run [] = (.ok (), [.text "name" "store"]) ∧
      Built (vault (Vault.new.existing (.symbol "vaultName"))) ∧
      ∃ body, (vault (Vault.new.existing (.symbol "vaultName"))).construct.run [] =
        (.ok (), body) ∧ ∀ p ∈ body, p.name ∈ identifyingKeys := by
  intro edits
  have hvault : Built (vault (Vault.new.existing (.symbol "vaultName"))) :=
    .vaultExisting .vault (.symbol "vaultName")
  obtain ⟨-, hdeclaration⟩ := identifying_of_construct.2 "store"
    "Microsoft.Storage/storageAccounts@2023-01-01" _ edits rfl
  exact ⟨_, rfl, hdeclaration, hvault, _, rfl, identifying_of_construct.1 _ _ hvault rfl rfl⟩

end Resource

end BicepTemplates
