import BicepTemplates.Azure.Cosmos.DataAccess
import BicepTemplates.Azure.ManagedIdentity
import BicepTemplates.Azure.MapsAccount
import BicepTemplates.Azure.RoleAssignment
import BicepTemplates.Azure.Vault
import BicepTemplates.Resource.Declaration
import BicepTemplates.Resource.Existing
import BicepTemplates.Resource.Hierarchy

/-! # Resources

Every kind of resource a template can declare. A resource is rendered in three steps: its own
fields are checked, its body is constructed from nothing, and header and body are written. A
failure in either of the first two ends the rendering. Accounts and databases are followed by the
resources they own.
-/

namespace BicepTemplates

open Cosmos

inductive Resource where
  | declaration (r : Declaration)
  | existing (r : ExistingResource)
  | account (r : Account)
  | database (r : Database)
  | container (r : Container)
  | dataGrant (r : DataGrant)
  | identity (r : ManagedIdentity)
  | vault (r : Vault)
  | roleAssignment (r : RoleAssignment)
  | maps (r : MapsAccount)

namespace Resource

def header : Resource → Header
  | declaration r => r.header
  | existing r => r.header
  | account r => r.header
  | database r => r.header
  | container r => r.header
  | dataGrant r => r.header
  | identity r => r.header
  | vault r => r.header
  | roleAssignment r => r.header
  | maps r => r.header

def name (r : Resource) : Name := r.header.name

def reference (r : Resource) : Expr := r.name.reference

/-- Checks the fields of the resource; success may come with warnings. -/
def validate : Resource → Except ValidationError (List Warning)
  | account r => do Rule.check r.rules; return r.warnings
  | database r => do Rule.check r.rules; return []
  | container r => do Rule.check r.rules; return []
  | dataGrant r => do discard r.parts; return []
  | vault r => do Rule.check r.rules; return []
  | roleAssignment r => do Rule.check r.rules; return []
  | _ => return []

def construct : Resource → Construction Unit
  | declaration r => r.construct
  | existing r => r.construct
  | account r => r.construct
  | database r => r.construct
  | container r => r.construct
  | dataGrant r => r.construct
  | identity r => r.construct
  | vault r => r.construct
  | roleAssignment r => r.construct
  | maps r => r.construct

/-- The resources owned directly. -/
def children : Resource → List Resource
  | account r => r.databases.map database
  | database r => r.containers.map container
  | _ => []

/-- How many generations may follow the resource. -/
def height : Resource → Nat
  | account _ => 2
  | database _ => 1
  | _ => 0

/-- Accounts own databases, and databases own containers. -/
def hierarchy : Hierarchy Resource where
  children := children
  height := height
  height_lt := by
    intro r s hs
    cases r with
    | account r =>
      obtain ⟨d, -, rfl⟩ := List.mem_map.mp hs
      exact Nat.one_lt_two
    | database r =>
      obtain ⟨c, -, rfl⟩ := List.mem_map.mp hs
      exact Nat.zero_lt_one
    | _ => exact absurd hs List.not_mem_nil

/-- The resource and all it owns, each parent right before its children. -/
def family (r : Resource) : List Resource :=
  hierarchy.preorder r

/-- A declaration that refers to the same resource from another template. -/
def asExisting (reference : Expr) : Resource → ExistingResource
  | maps r => r.asExisting reference
  | r => .new r.header.type reference

/-- The outputs a resource offers. -/
def outputs : Resource → List Output
  | account r => r.outputs
  | identity r => r.outputs
  | vault r => r.outputs
  | maps r => r.outputs
  | _ => []

/-- The declaration with the given body. An empty body still takes two lines. -/
def layout (h : Header) (body : List Property) : Layout := fun d =>
  let d := (((d.write "resource ").write h.name.text).write " ").write (Quoted.literal h.type)
  let d := (if h.existing then d.write " existing" else d).write " = "
  if body.isEmpty then ((d.write "\x7b").newline).write "\x7d"
  else Layout.block .object (propertyLayouts body) d

/-- The body that construction yields from nothing. -/
def body (r : Resource) : Except Error (List Property) :=
  match r.construct.run [] with
  | (.ok _, properties) => .ok properties
  | (.error e, _) => .error e

/-- The declaration as text, with the warnings its checks left. -/
def render (r : Resource) : Except Error (String × List Warning) := do
  let warnings ← r.validate.mapError (.validation r.name.text .validating)
  let properties ← r.body
  return (Layout.renderAt (layout r.header properties) 0, warnings)

end Resource

end BicepTemplates
