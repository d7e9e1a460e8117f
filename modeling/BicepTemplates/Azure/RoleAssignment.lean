import BicepTemplates.Registry
import BicepTemplates.Resource.Basic
import BicepTemplates.Resource.Rule
import BicepTemplates.Text.Guid

/-! # Role assignments

A role on another resource of the template is assigned to a principal. The symbol is derived from
resource, role, principal and kind of principal, so that assigning the same twice gives the same
symbol.
-/

namespace BicepTemplates

inductive PrincipalType where
  | user
  | group
  | servicePrincipal
  deriving DecidableEq, Repr

def PrincipalType.text : PrincipalType → String
  | user => "User"
  | group => "Group"
  | servicePrincipal => "ServicePrincipal"

/-- Who gets which role on what. -/
structure Assignment where
  scope : Name
  roleDefinitionId : String
  principalId : Expr
  principalType : PrincipalType := .servicePrincipal

def Assignment.seed (a : Assignment) : String :=
  a.scope.text ++ a.roleDefinitionId ++ a.principalId.render ++ a.principalType.text

structure RoleAssignment extends Assignment where
  header : Header

namespace RoleAssignment

def type : String := "Microsoft.Authorization/roleAssignments@2022-04-01"

def stem : NameStem := ⟨"ra_", by decide⟩

def named (name : Name) (a : Assignment) : RoleAssignment :=
  { a with header := { name, type } }

def new (a : Assignment) (i : Identification := .digest) : RoleAssignment :=
  named (.generated stem a.seed i) a

/-- Like `new`, and registers the identifier. -/
def allocate (a : Assignment) (i : Identification := .digest) : Allocation RoleAssignment := do
  return named (← Registry.allocateName stem a.seed i) a

def rules (r : RoleAssignment) : List Rule :=
  [.forbid (!Guid.isGuid r.roleDefinitionId)
    (.unsupported s!"role definition id `{r.roleDefinitionId}` is not a GUID")]

/-- The role definition on the level of the subscription. -/
def roleDefinition (r : RoleAssignment) : Expr :=
  .call "subscriptionResourceId"
    [.text "Microsoft.Authorization/roleDefinitions", .text r.roleDefinitionId]

def construct (r : RoleAssignment) : Construction Unit := do
  .add (.scalar "scope" r.scope.reference)
  .add (.scalar "name" (.call "guid" [.member r.scope.reference "id", r.roleDefinition]))
  .add (.bag "properties"
    [.scalar "roleDefinitionId" r.roleDefinition, .scalar "principalId" r.principalId,
      .text "principalType" r.principalType.text])

end RoleAssignment

end BicepTemplates
