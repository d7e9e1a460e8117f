import BicepTemplates.Azure.Cosmos.Account
import BicepTemplates.ScopePath

/-! # Access to data

A principal is granted a role on an account, on one of its databases or on one container. The
scope of a grant is given by the symbols from the account downwards.
-/

namespace BicepTemplates.Cosmos

inductive DataScope where
  | account (account : Name)
  | database (account database : Name)
  | container (account database container : Name)
  deriving DecidableEq, Repr

namespace DataScope

def ofAccount (a : Account) : DataScope :=
  .account a.header.name

def ofDatabase (d : Database) : DataScope :=
  .database d.account d.header.name

def ofContainer (c : Container) : DataScope :=
  .container c.account c.database c.header.name

/-- Only one, two or three symbols make a scope. -/
def ofAncestry : List Name → Except Error DataScope
  | [a] => .ok (.account a)
  | [a, d] => .ok (.database a d)
  | [a, d, c] => .ok (.container a d c)
  | names =>
    let chain := " -> ".intercalate (names.map Name.text)
    .error (.unsupportedVariant "sql scope" s!"ancestry of {names.length} levels ({chain})")

/-- The account everything is granted on. -/
def accountName : DataScope → Name
  | account a => a
  | database a _ => a
  | container a _ _ => a

def path : DataScope → ScopePath
  | account a => { root := a }
  | database a d => ScopePath.link "dbs" d { root := a }
  | container a d c => (ScopePath.link "dbs" d { root := a }).link "colls" c

def resolve (s : DataScope) : Except ExpressionError Expr :=
  s.path.resolve

end DataScope

inductive DataRole where
  | reader
  | contributor
  /-- A role definition that is declared in the same template. -/
  | custom (definition : Name)
  deriving DecidableEq, Repr

namespace DataRole

def builtIn (account : Name) (id : String) : Expr :=
  .call "resourceId"
    [.text "Microsoft.DocumentDB/databaseAccounts/sqlRoleDefinitions",
      .member account.reference "name", .text id]

def definitionId (account : Name) : DataRole → Expr
  | reader => builtIn account "00000000-0000-0000-0000-000000000001"
  | contributor => builtIn account "00000000-0000-0000-0000-000000000002"
  | custom definition => .member definition.reference "id"

end DataRole

structure DataGrant where
  header : Header
  scope : Option DataScope := none
  role : Option DataRole := none
  principalId : Option Expr := none

namespace DataGrant

def type : String :=
  "Microsoft.DocumentDB/databaseAccounts/sqlRoleAssignments@" ++ apiVersion

def new (name : String) : Except NameError DataGrant := do
  return { header := { name := ← Name.ofString name, type } }

/-- The parameter in which the host supplies a principal. -/
def defaultPrincipalId : Expr := .symbol "principalId"

def missing (field : String) : ValidationError :=
  .missingField field "for a role assignment"

/-- Scope, role and principal, or the first of them that is missing. -/
def parts (g : DataGrant) : Except ValidationError (DataScope × DataRole × Expr) :=
  match g.scope, g.role, g.principalId with
  | none, _, _ => .error (missing "scope")
  | some _, none, _ => .error (missing "role")
  | some _, some _, none => .error (missing "principal_id")
  | some scope, some role, some principalId => .ok (scope, role, principalId)

def construct (g : DataGrant) : Construction Unit := do
  let name := g.header.name
  let (scope, role, principalId) ←
    ExceptT.mk (pure (g.parts.mapError (Error.validation name.text .validating)))
  let account := scope.accountName
  .add (.scalar "parent" account.reference)
  .add (.scalar "name" (.call "guid" [.member account.reference "id", .text name.text]))
  let resolved ← ExceptT.mk (pure (scope.resolve.mapError Error.expression))
  .add (.bag "properties"
    [.scalar "roleDefinitionId" (role.definitionId account), .scalar "scope" resolved,
      .scalar "principalId" principalId])

end DataGrant

end BicepTemplates.Cosmos
