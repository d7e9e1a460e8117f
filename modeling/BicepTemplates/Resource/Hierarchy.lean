/-! # Hierarchies

Things that own others of their kind, which own more in turn. What is owned lies lower than its
owner, so that a walk over a thing and all below it comes to an end. The walk reaches each owner
right before what it owns.
-/

namespace BicepTemplates

structure Hierarchy (α : Type) where
  children : α → List α
  height : α → Nat
  height_lt : ∀ {a b}, b ∈ children a → height b < height a

namespace Hierarchy

variable {α : Type} (h : Hierarchy α)

/-- A walk that goes no deeper than the given number of steps. -/
def preorderTo : Nat → α → List α
  | 0, a => [a]
  | depth + 1, a => a :: (h.children a).flatMap (preorderTo depth)

/-- The thing itself and all below it. -/
def preorder (a : α) : List α :=
  h.preorderTo (h.height a) a

end Hierarchy

end BicepTemplates
