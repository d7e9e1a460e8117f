import BicepTemplates.Resource.Basic

/-! # Plain declarations

A resource put together from properties, without rules of its own. Declared as existing, only its
identifying properties are kept.
-/

namespace BicepTemplates

structure Declaration where
  header : Header
  properties : List Property := []

namespace Declaration

def new (name type : String) : Except NameError Declaration := do
  return { header := { name := ← Name.ofString name, type } }

/-- The same resource, marked as one that exists already. -/
def existing (d : Declaration) : Declaration :=
  { d with header := { d.header with existing := true } }

def add (p : Property) (d : Declaration) : Declaration :=
  { d with properties := d.properties ++ [p] }

def construct (d : Declaration) : Construction Unit :=
  .addAll (if d.header.existing then
    d.properties.filter fun p => identifyingKeys.contains p.name
  else d.properties)

end Declaration

end BicepTemplates
