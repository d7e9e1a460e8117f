import BicepTemplates.Name

/-! # Registry of identifiers

Distinct seeds may share an identifier. A registry remembers, in order, which identifier was
issued for which seed, and refuses a seed whose identifier belongs to another one. The function
from seeds to identifiers is a parameter, so that nothing here depends on the digest.
-/

namespace BicepTemplates

structure Registry where
  /-- Identifiers with their seeds, in order of first allocation. -/
  issued : List (String × String) := []

/-- A step that reads and extends a registry and may fail. -/
abbrev Allocation := ExceptT Error (StateM Registry)

namespace Registry

def seedOf? (r : Registry) (identifier : String) : Option String :=
  (r.issued.find? (·.1 == identifier)).map (·.2)

def allocateBy (identify : String → String) (seed : String) : Allocation String := do
  let identifier := identify seed
  match (← get).seedOf? identifier with
  | some first =>
    if first = seed then return identifier
    else throw (.identifierCollision identifier first seed)
  | none =>
    modify fun r => { r with issued := r.issued ++ [(identifier, seed)] }
    return identifier

def allocateAfterBy (identify : String → String) (beginning seed : String) :
    Allocation String := do
  return beginning ++ (← allocateBy identify seed)

/-- The identifier of the seed. -/
def allocate (seed : String) : Allocation String :=
  allocateBy identifier seed

/-- The identifier of the seed after a given beginning. -/
def allocateAfter (beginning seed : String) : Allocation String :=
  allocateAfterBy identifier beginning seed

/-- A generated name whose identifier is registered. That it is a name is checked once more. -/
def allocateName (stem : NameStem) (seed : String) (i : Identification := .digest) :
    Allocation Name := do
  let text ← allocateAfterBy i.identify stem.text seed
  ExceptT.mk (pure ((Name.ofString text).mapError Error.name))

end Registry

end BicepTemplates
