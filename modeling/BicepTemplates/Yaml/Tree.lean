import BicepTemplates.Yaml.Node.Grammar
import BicepTemplates.Yaml.Resolution
import BicepTemplates.Yaml.Token.Lexer

/-! # Trees

A document with every alias replaced by what it stands for. An alias refers to the anchor of that
name which was set last before it. Collections may be nested only so deep, counted through
aliases, and aliases may be followed only so often, which bounds the tree by the text.
-/

namespace BicepTemplates.Yaml

inductive Tree where
  /-- The tree an alias stands for. -/
  | aliasOf (target : Tree)
  | scalar (tag : Option String) (style : ScalarStyle) (text : String)
  | sequence (tag : Option String) (items : List Tree)
  | mapping (tag : Option String) (entries : List (Tree × Tree))
  deriving Inhabited

/-! ## Anchors -/

namespace Node

/-- Anchors that were set, with their numbers. -/
abbrev Anchors := List (String × Nat)

/-- The number of a newly set anchor is the number of names in use. -/
def setAnchor (name : String) (anchors : Anchors) : Anchors :=
  (name, anchors.length) :: anchors.filter (·.1 != name)

abbrev Numbering := StateT Anchors Option

def numberAnchor : Option String → Numbering (Option Nat)
  | none => return none
  | some name => do
    let anchors ← get
    set (setAnchor name anchors)
    return some anchors.length

mutual

/-- Names nodes by numbers. An alias has to follow its anchor. -/
def number : Node String → Numbering (Node Nat)
  | aliasOf name => do
    match (← get).find? (·.1 == name) with
    | some (_, n) => return aliasOf n
    | none => failure
  | scalar anchor tag style text => do return scalar (← numberAnchor anchor) tag style text
  | sequence anchor tag items => do
    let anchor ← numberAnchor anchor
    return sequence anchor tag (← numberItems items)
  | mapping anchor tag entries => do
    let anchor ← numberAnchor anchor
    return mapping anchor tag (← numberEntries entries)

def numberItems : List (Node String) → Numbering (List (Node Nat))
  | [] => return []
  | n :: rest => do
    let n ← number n
    return n :: (← numberItems rest)

def numberEntries : List (Node String × Node String) → Numbering (List (Node Nat × Node Nat))
  | [] => return []
  | (k, v) :: rest => do
    let k ← number k
    let v ← number v
    return (k, v) :: (← numberEntries rest)

end

end Node

/-! ## Unfolding -/

namespace Tree

/-- The nodes aliases stand for, and how often they may be followed. -/
structure Graph where
  targets : List (Nat × Node Nat)
  maxJumps : Nat

/-- Of two nodes with the same number, the one that starts last counts. -/
def Graph.ofRoot (root : Node Nat) : Graph :=
  ⟨root.anchored.reverse, 100 * root.size⟩

/-- Unfolding counts the aliases that were followed. -/
abbrev Unfolding := StateT Nat Option

def Graph.follow (g : Graph) (n : Nat) : Unfolding (Node Nat) := do
  let jumps := (← get) + 1
  set jumps
  if g.maxJumps < jumps then failure
  match g.targets.find? (·.1 == n) with
  | some (_, target) => return target
  | none => failure

/-- A node other than an alias, with a way to unfold its parts if there may be any. -/
def unfoldContent (part : Node Nat → Unfolding Tree) : Node Nat → Unfolding Tree
  | .aliasOf _ => failure
  | .scalar _ tag style text => return scalar tag style text
  | .sequence _ tag items => return sequence tag (← items.mapM part)
  | .mapping _ tag entries =>
    return mapping tag (← entries.mapM fun (k, v) => do
      let k ← part k
      return (k, ← part v))

def unfoldWith (g : Graph) (content : Node Nat → Unfolding Tree) : Node Nat → Unfolding Tree
  | .aliasOf n => do
    let target ← g.follow n
    return aliasOf (← content target)
  | n => content n

/-- Scalars alone. -/
def unfoldScalar : Node Nat → Unfolding Tree
  | .scalar _ tag style text => return scalar tag style text
  | _ => failure

/-- The tree of a node, with collections nested up to the given depth. -/
def unfold (g : Graph) : Nat → Node Nat → Unfolding Tree
  | 0 => unfoldWith g unfoldScalar
  | depth + 1 => unfoldWith g (unfoldContent (unfold g depth))

def maxDepth : Nat := 128

def ofNode? (root : Node String) : Option Tree := do
  let (root, _) ← root.number.run []
  let (tree, _) ← (unfold (Graph.ofRoot root) maxDepth root).run 0
  return tree

/-- The tree of the only document of a text. The outer option tells failure, the inner one that
there is no document at all. -/
def ofText? (s : String) : Option (Option Tree) := do
  match ← Node.ofTokens? (← Token.ofText? s.toList) with
  | none => return none
  | some root => return some (← ofNode? root)

/-- The tree behind an alias. -/
def target : Tree → Tree
  | aliasOf t => t.target
  | t => t

/-! ## Values -/

def coreTag (name : String) : String := "tag:yaml.org,2002:" ++ name

/-- The name of an application tag: one that starts with an exclamation mark. -/
def applicationTag? (tag : String) : Option String :=
  match tag.toList with
  | ['!'] => some "!"
  | ['!', '!'] => some "!"
  | '!' :: '!' :: name => some (String.ofList name)
  | '!' :: name => some (String.ofList name)
  | _ => none

/-- A scalar under a core tag has to be of that kind. Application tags do not change what a scalar
is, and under any other tag it is a string. -/
def scalarValue? (tag : Option String) (style : ScalarStyle) (text : String) : Option Value :=
  let resolved? := if style = .plain then Resolution.plain? text else some (.text text)
  match tag with
  | none => resolved?
  | some tag =>
    if tag = coreTag "bool" then (Resolution.bool? text).map .bool
    else if tag = coreTag "int" then
      (Resolution.whole? text.toList).bind fun n =>
        if Resolution.fitsWord n then some (.int n) else none
    else if tag = coreTag "float" then (Resolution.double? text.toList).map .double
    else if tag = coreTag "null" then
      if Resolution.isNull text && !text.isEmpty then some .null else none
    else if (applicationTag? tag).isSome then resolved?
    else some (.text text)

/-- Puts a value under its tag, if that is an application tag. -/
def tagged (tag : Option String) (v : Value) : Value :=
  match tag.bind applicationTag? with
  | some name => .tagged name v
  | none => v

mutual

/-- The value of a tree. No key of a mapping may come twice. -/
def value? : Tree → Option Value
  | aliasOf t => t.value?
  | scalar tag style text => (scalarValue? tag style text).map (tagged tag)
  | sequence tag items => (items? items).map fun items => tagged tag (.seq items)
  | mapping tag entries => (entries? [] entries).map fun entries => tagged tag (.map entries)

def items? : List Tree → Option (List Value)
  | [] => some []
  | t :: rest => do
    let v ← t.value?
    return v :: (← items? rest)

/-- The entries, given the keys before them. -/
def entries? (keys : List Value) : List (Tree × Tree) → Option (List (Value × Value))
  | [] => some []
  | (k, v) :: rest => do
    let k ← k.value?
    if keys.any (Value.same k) then none
    let v ← v.value?
    return (k, v) :: (← entries? (k :: keys) rest)

end

end Tree

end BicepTemplates.Yaml
