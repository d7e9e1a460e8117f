import BicepTemplates.Interface
import BicepTemplates.Resource.Basic
import BicepTemplates.Resource.Rule

/-! # Key vaults

Vaults are created elsewhere; a template only refers to them.
-/

namespace BicepTemplates

structure Vault where
  header : Header
  publicName : Option Expr := none

namespace Vault

def type : String := "Microsoft.KeyVault/vaults@2022-07-01"

def stem : NameStem := ⟨"kv_", by decide⟩

def new : Vault :=
  { header := { name := .generated stem "kv", type } }

/-- The vault that is deployed under the given name. -/
def existing (name : Expr) (v : Vault) : Vault :=
  { v with header := { v.header with existing := true }, publicName := some name }

def rules (v : Vault) : List Rule :=
  [.forbid (!v.header.existing)
      (.unsupported "key vaults cannot be created, declare an existing vault instead"),
    .required "public_name" "for an existing vault" v.publicName]

def construct (v : Vault) : Construction Unit :=
  .addAll (v.publicName.map fun name => Property.scalar "name" name).toList

/-- The address of the vault. -/
def outputs (v : Vault) : List Output :=
  [⟨⟨"vaultUri", by decide⟩, .string,
    .member (.member v.header.name.reference "properties") "vaultUri"⟩]

end Vault

end BicepTemplates
