import BicepTemplates.Registry
import BicepTemplates.Resource.Basic

/-! # References to existing resources

A resource that another template declares is referred to by name. Its symbol is derived from that
reference, or from a seed that stands for it.
-/

namespace BicepTemplates

structure ExistingResource where
  header : Header
  reference : Expr

namespace ExistingResource

def stem : NameStem := ⟨"er_", by decide⟩

def named (name : Name) (type : String) (reference : Expr) : ExistingResource :=
  ⟨{ name, type, existing := true }, reference⟩

def withSeed (type seed : String) (reference : Expr) (i : Identification := .digest) :
    ExistingResource :=
  named (.generated stem seed i) type reference

def new (type : String) (reference : Expr) (i : Identification := .digest) : ExistingResource :=
  withSeed type reference.seed reference i

/-- Like `new`, and registers the identifier. -/
def allocate (type : String) (reference : Expr) (i : Identification := .digest) :
    Allocation ExistingResource := do
  return named (← Registry.allocateName stem reference.seed i) type reference

def construct (r : ExistingResource) : Construction Unit :=
  .add (.scalar "name" r.reference)

end ExistingResource

end BicepTemplates
