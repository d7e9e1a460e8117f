import BicepTemplates.Proofs.Azure.RoleAssignment
import BicepTemplates.Proofs.Document.Blocks

/-! # What the deployed name of a role assignment tells

A role assignment is deployed at its scope under a name of its own. The symbol is derived from
scope, role, principal and kind of principal, but the deployed name from scope and role alone. What
a template says under `scope` and `name` therefore tells these two, and two principals that get one
role on one resource are deployed under one name.
-/

namespace BicepTemplates

/-- What a template says under a key of a body. -/
def textsUnder (key : String) (level : Level) (body : List Property) : List String :=
  (body.filter (·.name == key)).map (·.renderAt level)

theorem PrincipalType.text_inj {t u : PrincipalType} (h : t.text = u.text) : t = u := by
  cases t <;> cases u <;> first | rfl | exact absurd h (by decide)

namespace RoleAssignment

variable {x y : RoleAssignment} {level : Level}

def deployedName (r : RoleAssignment) : Expr :=
  .call "guid" [.member r.scope.reference "id", r.roleDefinition]

def body (r : RoleAssignment) : List Property :=
  [.scalar "scope" r.scope.reference, .scalar "name" r.deployedName, .bag "properties"
    [.scalar "roleDefinitionId" r.roleDefinition, .scalar "principalId" r.principalId,
      .text "principalType" r.principalType.text]]

theorem body_eq (r : RoleAssignment) : (Resource.roleAssignment r).body = .ok r.body := rfl

theorem validate_eq_ok {r : RoleAssignment} (h : Guid.isGuid r.roleDefinitionId = true) :
    (Resource.roleAssignment r).validate = .ok [] := by
  simp [Resource.validate, rules, Rule.forbid, h, Rule.check]

theorem textsUnder_scope_of_eq (h : x.scope = y.scope) :
    textsUnder "scope" level x.body = textsUnder "scope" level y.body := by
  have htexts : ∀ r : RoleAssignment, textsUnder "scope" level r.body =
      [(Property.scalar "scope" r.scope.reference).renderAt level] := fun _ => rfl
  rw [htexts, htexts, h]

theorem textsUnder_name (r : RoleAssignment) : textsUnder "name" level r.body =
    [(Property.scalar "name" r.deployedName).renderAt level] := rfl

theorem chars_deployedName (r : RoleAssignment) : r.deployedName.chars = "guid(".toList ++
    (r.scope.text.toList ++ (".id,subscriptionResourceId(".toList ++
      (Quoted.encode "Microsoft.Authorization/roleDefinitions".toList ++
        (',' :: (Quoted.encode r.roleDefinitionId.toList ++ "))".toList))))) := by
  simp [deployedName, roleDefinition, Name.reference, Expr.chars, argsChars, moreArgsChars]

theorem eq_of_chars_deployedName_eq (h : x.deployedName.chars = y.deployedName.chars) :
    x.scope = y.scope ∧ x.roleDefinitionId = y.roleDefinitionId := by
  -- the scope ends at the dot behind it, and the role id at its closing quote
  have hdot : ∀ u : List Char, Ends isWordChar (".id,subscriptionResourceId(".toList ++ u) :=
    fun _ => ends_cons.mpr (by decide)
  rw [chars_deployedName, chars_deployedName, List.append_cancel_left_eq] at h
  obtain ⟨hscope, hrest⟩ := Name.append_inj (hdot _) (hdot _) h
  rw [List.append_cancel_left_eq, List.append_cancel_left_eq, List.cons.injEq] at hrest
  obtain ⟨hrole, -⟩ := Quoted.encode_append_inj hrest.2
  exact ⟨hscope, String.toList_inj.mp hrole⟩

theorem textsUnder_name_eq_iff :
    textsUnder "name" level x.body = textsUnder "name" level y.body ↔
      x.scope = y.scope ∧ x.roleDefinitionId = y.roleDefinitionId := by
  rw [textsUnder_name, textsUnder_name, List.singleton_inj]
  constructor
  · intro h
    have hchars := congrArg String.toList h
    rw [Property.toList_renderAt, Property.toList_renderAt] at hchars
    exact eq_of_chars_deployedName_eq (List.append_cancel_left hchars)
  · rintro ⟨hscope, hrole⟩
    rw [deployedName, deployedName, roleDefinition, roleDefinition, hscope, hrole]

/-- The body as a whole keeps all four parts of an assignment. -/
theorem body_eq_iff : x.body = y.body ↔ x.toAssignment = y.toAssignment := by
  obtain ⟨⟨scope, role, principal, type⟩, header⟩ := x
  obtain ⟨⟨scope', role', principal', type'⟩, header'⟩ := y
  constructor
  · intro h
    obtain ⟨hscope, hrest⟩ := List.cons.inj h
    obtain ⟨-, hproperties⟩ := List.cons.inj hrest
    obtain ⟨-, -, hentries⟩ := Property.object.inj (List.cons.inj hproperties).1
    obtain ⟨hrole, hentries⟩ := List.cons.inj hentries
    obtain ⟨hprincipal, hentries⟩ := List.cons.inj hentries
    obtain ⟨-, hscope⟩ := Property.scalar.inj hscope
    obtain ⟨-, hrole⟩ := Property.scalar.inj hrole
    obtain ⟨-, hprincipal⟩ := Property.scalar.inj hprincipal
    obtain ⟨-, htype⟩ := Property.scalar.inj (List.cons.inj hentries).1
    obtain rfl := Name.eq_of_text_eq (Expr.symbol.inj hscope)
    have hid := (List.cons.inj (List.cons.inj (Expr.call.inj hrole).2).2).1
    obtain rfl := Expr.text.inj hid
    obtain rfl : principal = principal' := hprincipal
    obtain rfl := PrincipalType.text_inj (Expr.text.inj htype)
    rfl
  · intro h
    obtain ⟨rfl, rfl, rfl, rfl⟩ := Assignment.mk.inj h
    rfl

/-- Two role assignments stand at one scope under one deployed name exactly if they assign the same
role there, whoever the principals are. Their bodies still tell the principals apart. -/
theorem scope_and_name_eq_iff (x y : RoleAssignment) :
    ∃ body body', (Resource.roleAssignment x).body = .ok body ∧
      (Resource.roleAssignment y).body = .ok body' ∧
      (∀ level, textsUnder "scope" level body = textsUnder "scope" level body' ∧
        textsUnder "name" level body = textsUnder "name" level body' ↔
          x.scope = y.scope ∧ x.roleDefinitionId = y.roleDefinitionId) ∧
      (body = body' ↔ x.toAssignment = y.toAssignment) := by
  refine ⟨x.body, y.body, x.body_eq, y.body_eq, fun level => ?_, body_eq_iff⟩
  rw [textsUnder_name_eq_iff]
  constructor
  · exact fun h => h.2
  · rintro ⟨hscope, hrole⟩
    exact ⟨textsUnder_scope_of_eq hscope, hscope, hrole⟩

/-- A user and a group get one role on one vault. The template declares both, under two symbols and
one deployed name. -/
theorem name_eq_of_principals_ne :
    let vault : Declaration := ⟨⟨⟨"vault", by decide⟩, Vault.type, true⟩, []⟩
    let role := "4633458b-17de-408a-b874-0445c86b69e6"
    let user := new ⟨vault.header.name, role, .symbol "userId", .user⟩
    let group := new ⟨vault.header.name, role, .symbol "groupId", .group⟩
    let d : Document := {
      resources := [.declaration vault, .roleAssignment user, .roleAssignment group] }
    ∃ template body body', d.render = .ok template ∧
      (Resource.roleAssignment user).validate = .ok [] ∧
      (Resource.roleAssignment group).validate = .ok [] ∧
      (Resource.roleAssignment user).body = .ok body ∧
      (Resource.roleAssignment group).body = .ok body' ∧
      textsUnder "scope" 1 body = textsUnder "scope" 1 body' ∧
      textsUnder "name" 1 body = textsUnder "name" 1 body' ∧
      user.header.name ≠ group.header.name ∧ user.principalId ≠ group.principalId ∧
      user.principalType ≠ group.principalType := by
  intro vault role user group d
  have hsymbols : ["vault", user.header.name.text, group.header.name.text].Nodup := by
    decide +kernel
  have huser : (Resource.roleAssignment user).validate = .ok [] := validate_eq_ok (by decide)
  have hgroup : (Resource.roleAssignment group).validate = .ok [] := validate_eq_ok (by decide)
  have hshown : List.Forall₂ Resource.Shows d.resources
      [(⟨vault.header, []⟩, []), (⟨user.header, user.body⟩, []),
        (⟨group.header, group.body⟩, [])] :=
    .cons ⟨rfl, rfl⟩ (.cons ⟨huser, rfl⟩ (.cons ⟨hgroup, rfl⟩ .nil))
  have hrender := Document.render_of_shows (d := d) hsymbols .nil hshown
  refine ⟨_, _, _, hrender, huser, hgroup, user.body_eq, group.body_eq, ?_, ?_, ?_, ?_, ?_⟩
  · exact textsUnder_scope_of_eq rfl
  · exact textsUnder_name_eq_iff.mpr ⟨rfl, rfl⟩
  · intro h
    have hsymbol := (List.nodup_cons.mp (List.nodup_cons.mp hsymbols).2).1
    exact hsymbol (List.mem_singleton.mpr (congrArg Name.text h))
  · exact fun h => absurd (Expr.symbol.inj h) (by decide)
  · decide

end RoleAssignment

end BicepTemplates
