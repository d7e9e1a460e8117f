import BicepTemplates.Expression.Interpolation
import BicepTemplates.Name

/-! # Scope paths

A nested resource is addressed from its root ancestor: the root by its `id`, each level below by a
fixed segment and the name of the resource there.
-/

namespace BicepTemplates

structure ScopeLink where
  segment : String
  name : Name

structure ScopePath where
  root : Name
  links : List ScopeLink := []

namespace ScopePath

/-- One level further down. -/
def link (segment : String) (name : Name) (p : ScopePath) : ScopePath :=
  { p with links := p.links ++ [⟨segment, name⟩] }

/-- Number of levels below the root. -/
def depth (p : ScopePath) : Nat := p.links.length

def addLink (b : Interpolation) (l : ScopeLink) : Interpolation :=
  (b.literal s!"/{l.segment}/").expression (.member l.name.reference "name")

/-- The root alone is a plain member access, a descendant an interpolated string. -/
def resolve (p : ScopePath) : Except ExpressionError Expr :=
  let root := Expr.member p.root.reference "id"
  match p.links with
  | [] => .ok root
  | links => (links.foldl addLink ((Interpolation.literal "" {}).expression root)).build

end ScopePath

end BicepTemplates
