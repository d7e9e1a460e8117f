import BicepTemplates.Interface
import BicepTemplates.Resource.Existing
import BicepTemplates.Text.Lowercase

/-! # Maps accounts -/

namespace BicepTemplates

structure MapsAccount where
  header : Header
  accountName : String
  sku : String := "G2"
  kind : String := "Gen2"
  /-- No shared keys. -/
  disableLocalAuth : Bool := true

namespace MapsAccount

def type : String := "Microsoft.Maps/accounts@2023-06-01"

def new (accountName : String) : MapsAccount :=
  { header := { name := ⟨"mapsAccount", by decide⟩, type }, accountName }

def construct (m : MapsAccount) : Construction Unit := do
  let name ← ExceptT.mk (pure
    ((uniqueName (Lowercase.lowercase m.accountName)).mapError Error.expression))
  .add (.scalar "name" name)
  .add (.scalar "location" location)
  .add (.text "kind" m.kind)
  .add (.bag "sku" [.text "name" m.sku])
  .add (.bag "properties" (if m.disableLocalAuth then [.bool "disableLocalAuth" true] else []))

/-- Seeded by the account name, so that every template agrees on the symbol of an account. -/
def asExisting (reference : Expr) (m : MapsAccount) : ExistingResource :=
  .withSeed m.header.type m.accountName reference

/-- The id that clients send along. -/
def outputs (m : MapsAccount) : List Output :=
  [⟨⟨"clientId", rfl⟩, .string,
    .member (.member m.header.name.reference "properties") "uniqueId"⟩]

end MapsAccount

end BicepTemplates
