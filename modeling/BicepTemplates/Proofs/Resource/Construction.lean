import BicepTemplates.Proofs.Document.Outcome
import BicepTemplates.Proofs.Expression.Building

/-! # Checked resources are constructed

A construction either adds its properties behind those a body has, or it fails before it has added
any. What makes it fail is found by the checks before it, so that a resource which passes them is
always constructed. Rendering fails exactly as the checks do.
-/

namespace BicepTemplates

namespace Construction

variable {α : Type} {c c' : Construction Unit} {ps qs : List Property} {e : Error}
  {x : Except Error α} {a : α} {f : α → Construction Unit}

/-- Every body gets the properties behind those it has. -/
def Adds (c : Construction Unit) (ps : List Property) : Prop :=
  ∀ before, c.run before = (.ok (), before ++ ps)

/-- No body is changed. -/
def Refuses (c : Construction Unit) (e : Error) : Prop :=
  ∀ before, c.run before = (.error e, before)

theorem adds_add (p : Property) : (add p).Adds [p] := fun _ => rfl

theorem adds_addAll (ps : List Property) : (addAll ps).Adds ps := fun _ => rfl

theorem Adds.seq (h : c.Adds ps) (h' : c'.Adds qs) : Adds (do c; c') (ps ++ qs) := by
  intro before
  rw [run_bind, h before, ← List.append_assoc]
  exact h' (before ++ ps)

theorem adds_of_given (hx : x = .ok a) (h : (f a).Adds ps) :
    Adds (ExceptT.mk (pure x) >>= f) ps := by
  subst hx
  exact h

theorem refuses_of_given (hx : x = .error e) : Refuses (ExceptT.mk (pure x) >>= f) e := by
  subst hx
  exact fun _ => rfl

end Construction

open Construction

theorem exists_uniqueName (beginning : String) :
    ∃ name, (uniqueName beginning).mapError Error.expression = .ok name := by
  obtain ⟨name, hname⟩ : ∃ name, uniqueName beginning = .ok name :=
    Interpolation.exists_build (.inl rfl)
  exact ⟨name, mapError_eq_ok_iff.mpr hname⟩

section Kinds

theorem Cosmos.Account.exists_adds (a : Account) : ∃ ps, a.construct.Adds ps := by
  obtain ⟨name, hname⟩ := exists_uniqueName (Lowercase.lowercase a.accountName)
  exact ⟨_, adds_of_given hname ((adds_add _).seq ((adds_add _).seq (adds_add _)))⟩

theorem Cosmos.Database.exists_adds (d : Database) : ∃ ps, d.construct.Adds ps :=
  ⟨_, (adds_add _).seq ((adds_add _).seq ((adds_add _).seq (adds_add _)))⟩

theorem Cosmos.Container.adds_or_refuses (c : Container) : (∃ ps, c.construct.Adds ps) ∨
    Rule.check c.rules = .error partitionKeyMissing ∧
      c.construct.Refuses (.validation c.header.name.text .validating partitionKeyMissing) := by
  unfold construct
  cases hkey : c.partitionKey with
  | none => exact .inr ⟨by simp [Rule.check, rules, Rule.forbid, hkey], fun _ => rfl⟩
  | some key =>
    exact .inl ⟨_, (adds_add _).seq ((adds_add _).seq ((adds_add _).seq (adds_add _)))⟩

/-- A grant writes two properties before it resolves its scope, but this does not fail. -/
theorem Cosmos.DataGrant.adds_or_refuses (g : DataGrant) : (∃ ps, g.construct.Adds ps) ∨
    ∃ cause, g.parts = .error cause ∧
      g.construct.Refuses (.validation g.header.name.text .validating cause) := by
  unfold construct
  cases hparts : g.parts with
  | error cause => exact .inr ⟨cause, rfl, refuses_of_given rfl⟩
  | ok parts =>
    obtain ⟨scope, role, principalId⟩ := parts
    obtain ⟨resolved, hresolved⟩ := scope.path.exists_resolve
    have hscope : scope.resolve.mapError Error.expression = .ok resolved :=
      mapError_eq_ok_iff.mpr hresolved
    exact .inl ⟨_, adds_of_given rfl ((adds_add _).seq ((adds_add _).seq
      (adds_of_given hscope (adds_add _))))⟩

theorem ManagedIdentity.exists_adds (i : ManagedIdentity) : ∃ ps, i.construct.Adds ps := by
  obtain ⟨name, hname⟩ := exists_uniqueName i.header.name.text
  exact ⟨_, adds_of_given hname ((adds_add _).seq (adds_add _))⟩

theorem RoleAssignment.exists_adds (r : RoleAssignment) : ∃ ps, r.construct.Adds ps :=
  ⟨_, (adds_add _).seq ((adds_add _).seq (adds_add _))⟩

theorem MapsAccount.exists_adds (m : MapsAccount) : ∃ ps, m.construct.Adds ps := by
  obtain ⟨name, hname⟩ := exists_uniqueName (Lowercase.lowercase m.accountName)
  exact ⟨_, adds_of_given hname ((adds_add _).seq ((adds_add _).seq ((adds_add _).seq
    ((adds_add _).seq (adds_add _)))))⟩

end Kinds

namespace Resource

variable {r : Resource} {e : Error}

/-- What is not constructed is not valid, and fails with the violation that checking reports. -/
theorem adds_or_refuses (r : Resource) : (∃ ps, r.construct.Adds ps) ∨
    ∃ cause, r.validate = .error cause ∧
      r.construct.Refuses (.validation r.name.text .validating cause) := by
  cases r with
  | declaration d => exact .inl ⟨_, adds_addAll _⟩
  | existing x => exact .inl ⟨_, adds_add _⟩
  | account a => exact .inl a.exists_adds
  | database d => exact .inl d.exists_adds
  | container c =>
    refine c.adds_or_refuses.imp_right fun ⟨hrules, hrefuses⟩ => ⟨_, ?_, hrefuses⟩
    exact bind_eq_error_iff.mpr (.inl hrules)
  | dataGrant g =>
    refine g.adds_or_refuses.imp_right fun ⟨cause, hparts, hrefuses⟩ => ⟨cause, ?_, hrefuses⟩
    rw [validate, hparts]
    rfl
  | identity i => exact .inl i.exists_adds
  | vault v => exact .inl ⟨_, adds_addAll _⟩
  | roleAssignment x => exact .inl x.exists_adds
  | maps m => exact .inl m.exists_adds

theorem body_of_adds {ps : List Property} (h : r.construct.Adds ps) : r.body = .ok ps := by
  rw [body, h []]
  rfl

theorem exists_adds_of_validate {warnings : List Warning} (hv : r.validate = .ok warnings) :
    ∃ ps, r.construct.Adds ps := by
  rcases r.adds_or_refuses with hadds | ⟨cause, hcause, -⟩
  · exact hadds
  · exact nomatch hv.symm.trans hcause

/-- Construction is never what a rendering fails in. -/
theorem fails_iff : r.Fails e ↔
    ∃ cause, r.validate = .error cause ∧ e = .validation r.name.text .validating cause := by
  constructor
  · intro h
    cases h with
    | validating hcause => exact ⟨_, hcause, rfl⟩
    | constructing hv hbody =>
      obtain ⟨ps, hps⟩ := exists_adds_of_validate hv
      exact nomatch (body_of_adds hps).symm.trans hbody
  · rintro ⟨cause, hcause, rfl⟩
    exact .validating hcause

/-- A resource that passes its checks adds the same properties to every body. Rendering fails
exactly with what the checks report, and a construction that is tried without them and fails does
so with the same error and leaves the body as it was. -/
theorem construct_of_validate (r : Resource) :
    ((∃ warnings, r.validate = .ok warnings) →
      ∃ ps, ∀ before, r.construct.run before = (.ok (), before ++ ps)) ∧
    (∀ e, r.render = .error e ↔
      ∃ cause, r.validate = .error cause ∧ e = .validation r.name.text .validating cause) ∧
    ∀ before e after, r.construct.run before = (.error e, after) →
      after = before ∧ r.render = .error e := by
  refine ⟨fun ⟨_, hv⟩ => exists_adds_of_validate hv, fun e => ?_, fun before e after h => ?_⟩
  · rw [render_eq_error_iff, fails_iff]
  · rcases r.adds_or_refuses with ⟨ps, hadds⟩ | ⟨cause, hcause, hrefuses⟩
    · exact nomatch (hadds before).symm.trans h
    · obtain ⟨herror, rfl⟩ := Prod.mk.inj ((hrefuses before).symm.trans h)
      obtain rfl := Except.error.inj herror
      exact ⟨rfl, render_eq_error_iff.mpr (fails_iff.mpr ⟨cause, hcause, rfl⟩)⟩

/-- A grant on a container is constructed behind a tag. Without its principal it leaves the tag
alone, and rendering names the principal. -/
theorem construct_of_validate_grant :
    let tags : List Property := [.bag "tags" [.text "team" "orders"]]
    let complete : Cosmos.DataGrant := ⟨⟨⟨"access", by decide⟩, Cosmos.DataGrant.type, false⟩,
      some (.container ⟨"account", by decide⟩ ⟨"orders", by decide⟩ ⟨"lines", by decide⟩),
      some .reader, some Cosmos.DataGrant.defaultPrincipalId⟩
    let incomplete : Cosmos.DataGrant := { complete with principalId := none }
    ∃ ps e, (Resource.dataGrant complete).construct.run tags = (.ok (), tags ++ ps) ∧
      (Resource.dataGrant incomplete).construct.run tags = (.error e, tags) ∧
      (Resource.dataGrant incomplete).render = .error e ∧
      e = .validation "access" .validating (Cosmos.DataGrant.missing "principal_id") := by
  intro tags complete incomplete
  obtain ⟨ps, hps⟩ := (construct_of_validate (.dataGrant complete)).1 ⟨[], rfl⟩
  obtain ⟨-, hrender⟩ := (construct_of_validate (.dataGrant incomplete)).2.2 tags _ _ rfl
  exact ⟨ps, _, hps tags, rfl, hrender, rfl⟩

end Resource

end BicepTemplates
