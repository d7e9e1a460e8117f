import BicepTemplates.Interface
import BicepTemplates.Registry
import BicepTemplates.Resource.Basic

/-! # Managed identities

An identity is declared under a symbol derived from its public name, so that the same identity
always has the same symbol.
-/

namespace BicepTemplates

structure ManagedIdentity where
  header : Header
  publicName : String

namespace ManagedIdentity

def type : String := "Microsoft.ManagedIdentity/userAssignedIdentities@2023-01-31"

def stem : NameStem := ⟨"uai_", by decide⟩

/-- Deployed names are at most this long. -/
def maxNameLength : Int := 24

def named (name : Name) (publicName : String) : ManagedIdentity :=
  { header := { name, type }, publicName }

def new (publicName : String) (i : Identification := .digest) : ManagedIdentity :=
  named (.generated stem publicName i) publicName

/-- Like `new`, and registers the identifier. -/
def allocate (publicName : String) (i : Identification := .digest) :
    Allocation ManagedIdentity := do
  return named (← Registry.allocateName stem publicName i) publicName

def construct (i : ManagedIdentity) : Construction Unit := do
  let name ← ExceptT.mk (pure ((uniqueName i.header.name.text).mapError Error.expression))
  .add (.scalar "name" (.call "toLower" [.call "take" [name, .int maxNameLength]]))
  .add (.scalar "location" location)

/-- What a host needs to attach the identity elsewhere. -/
def outputs (i : ManagedIdentity) : List Output :=
  let self := i.header.name.reference
  let properties := Expr.member self "properties"
  [⟨⟨"principalId", by decide⟩, .string, .member properties "principalId"⟩,
    ⟨⟨"clientId", by decide⟩, .string, .member properties "clientId"⟩,
    ⟨⟨"resourceId", by decide⟩, .string, .member self "id"⟩]

end ManagedIdentity

end BicepTemplates
