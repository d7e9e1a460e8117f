import BicepTemplates.Expression.Interpolation
import BicepTemplates.Name
import BicepTemplates.Property

/-! # What resources share

A resource has a header: its symbolic name, its type, and whether it only refers to a resource
that exists already. Its body is constructed by adding properties one after the other. The checks
before construction may leave warnings about settings that are allowed but questionable.
-/

namespace BicepTemplates

structure Header where
  name : Name
  type : String
  existing : Bool := false

namespace Header

/-- Gives the resource another name, if it is one. -/
def rename (text : String) : ExceptT NameError (StateM Header) Unit := do
  let name ← ExceptT.mk (pure (Name.ofString text))
  modify fun h => { h with name := name }

end Header

/-- A step that adds to a body and may fail. -/
abbrev Construction := ExceptT Error (StateM (List Property))

namespace Construction

def add (p : Property) : Construction Unit :=
  modify (· ++ [p])

def addAll (ps : List Property) : Construction Unit :=
  modify (· ++ ps)

end Construction

/-- An allowed setting of an account that someone should know about. -/
structure Warning where
  account : String
  text : String
  deriving DecidableEq, Repr

/-- The properties an existing resource may carry, because they tell which one it is. -/
def identifyingKeys : List String := ["name", "parent", "scope"]

/-- The parameter most resources are placed with. -/
def location : Expr := .symbol "location"

/-- A string that differs between resource groups. -/
def uniqueString : Expr :=
  .call "uniqueString" [.member (.call "resourceGroup" []) "id"]

/-- A deployed name that starts with fixed text. -/
def uniqueName (beginning : String) : Except ExpressionError Expr :=
  ((Interpolation.literal beginning {}).expression uniqueString).build

end BicepTemplates
