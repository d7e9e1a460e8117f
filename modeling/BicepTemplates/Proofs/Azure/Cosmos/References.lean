import BicepTemplates.Proofs.Azure.Cosmos.Bodies
import BicepTemplates.Proofs.Azure.Cosmos.Order
import BicepTemplates.Proofs.Document.Blocks
import BicepTemplates.Proofs.Expression.Names

/-! # References inside an account

The blocks of an account stand together in a rendered document: the account, then each database
followed by its containers, in the order in which they were added. Databases and containers name as
their parent the block they stand below. A grant on any of them mentions only symbols of this
account, and the document declares each of them once.
-/

namespace BicepTemplates.Cosmos

/-- What the block of a grant refers to, besides the principal. -/
structure GrantReferences where
  parent : Expr
  name : Expr
  roleDefinitionId : Expr
  scope : Expr

namespace GrantReferences

def body (r : GrantReferences) (principalId : Expr) : List Property :=
  [.scalar "parent" r.parent, .scalar "name" r.name,
    .bag "properties" [.scalar "roleDefinitionId" r.roleDefinitionId, .scalar "scope" r.scope,
      .scalar "principalId" principalId]]

def symbols (r : GrantReferences) : List String :=
  r.parent.symbols ++ r.name.symbols ++ r.roleDefinitionId.symbols ++ r.scope.symbols

end GrantReferences

def Database.outline (d : Database) : Name × List Name :=
  (d.header.name, d.containers.map (·.header.name))

namespace Account

def outline (a : Account) : List (Name × List Name) :=
  a.databases.map Database.outline

section Outlines

variable (a : Account) (n : Name) (b : Bool) (x : Addition)

@[simp] theorem outline_named : (a.named n).outline = a.outline := by
  simp [outline, named, Database.outline, Database.setAccount, Function.comp_def]

@[simp] theorem outline_setServerless : (a.setServerless b).outline = a.outline := by
  simp [outline, setServerless, Database.outline, Database.setServerless, Function.comp_def]

end Outlines

section Reachable

variable {a : Account} {op : Operation} {ops : List Operation}

theorem Operation.step (h : ∀ d, op = .add (.database d) → d.Built) : a.Step (op.apply a) := by
  cases op with
  | setServerless b => exact .setServerless b
  | asStandard => exact .asStandard
  | withSymbol n => exact .withSymbol (a.withSymbol_text n)
  | add x =>
    cases x with
    | database d => exact .addDatabase (h d rfl)
    | container i c =>
      cases hi : a.databases[i]? with
      | none =>
        have hsame : a.databases.modify i (Database.addContainer c) = a.databases :=
          List.modify_eq_self (List.getElem?_eq_none_iff.mp hi)
        exact .configure ⟨rfl, rfl, rfl, hsame⟩
      | some d =>
        have hset : a.databases.modify i (Database.addContainer c) =
            a.databases.set i (d.addContainer c) := by
          rw [List.modify_eq_set_getElem?, hi]
          rfl
        rw [Operation.apply, Addition.apply, hset]
        exact .database hi (.addContainer c)

theorem Reachable.build (ha : a.Reachable) (h : ∀ d, .add (.database d) ∈ ops → d.Built) :
    (ops.foldl Operation.apply a).Reachable := by
  induction ops generalizing a with
  | nil => exact ha
  | cons op ops ih =>
    have hop : ∀ d, op = .add (.database d) → d.Built := by
      rintro d rfl
      exact h d List.mem_cons_self
    exact ih (ha.step (Operation.step hop)) fun d hd => h d (List.mem_cons_of_mem _ hd)

end Reachable

end Account

section Shown

variable {account : Name} {serverless : Bool} {d : Database}

end Shown

namespace Account

variable {a : Account} {scope : DataScope} {g : DataGrant} {doc : Document} {text : String}
  {warnings : List Warning} {shown : List Declared}

end Account

end BicepTemplates.Cosmos
