import BicepTemplates.Yaml.Token

/-! # Nodes

The structure of a document before aliases are followed. Nodes may be anchored, and an alias names
the anchor of another node, in whatever way nodes are named.
-/

namespace BicepTemplates.Yaml

inductive Node (ρ : Type) where
  | aliasOf (target : ρ)
  | scalar (anchor : Option ρ) (tag : Option String) (style : ScalarStyle) (text : String)
  | sequence (anchor : Option ρ) (tag : Option String) (items : List (Node ρ))
  | mapping (anchor : Option ρ) (tag : Option String) (entries : List (Node ρ × Node ρ))
  deriving Inhabited

namespace Node

variable {ρ : Type}

/-- The node that nothing is written for. -/
def empty : Node ρ := scalar none none .plain ""

mutual

/-- The size of a node in elementary events: a collection starts and ends. -/
def size : Node ρ → Nat
  | aliasOf _ => 1
  | scalar .. => 1
  | sequence _ _ items => itemsSize items + 2
  | mapping _ _ entries => entriesSize entries + 2

def itemsSize : List (Node ρ) → Nat
  | [] => 0
  | n :: rest => n.size + itemsSize rest

def entriesSize : List (Node ρ × Node ρ) → Nat
  | [] => 0
  | (k, v) :: rest => k.size + v.size + entriesSize rest

end

mutual

/-- All anchored nodes with their anchors, in the order in which they start. -/
def anchored : Node ρ → List (ρ × Node ρ)
  | aliasOf _ => []
  | scalar anchor tag style text =>
    (anchor.map fun a => (a, scalar anchor tag style text)).toList
  | sequence anchor tag items =>
    (anchor.map fun a => (a, sequence anchor tag items)).toList ++ itemsAnchored items
  | mapping anchor tag entries =>
    (anchor.map fun a => (a, mapping anchor tag entries)).toList ++ entriesAnchored entries

def itemsAnchored : List (Node ρ) → List (ρ × Node ρ)
  | [] => []
  | n :: rest => n.anchored ++ itemsAnchored rest

def entriesAnchored : List (Node ρ × Node ρ) → List (ρ × Node ρ)
  | [] => []
  | (k, v) :: rest => k.anchored ++ v.anchored ++ entriesAnchored rest

end

end Node

end BicepTemplates.Yaml
