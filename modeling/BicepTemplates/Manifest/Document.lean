import BicepTemplates.Document
import BicepTemplates.Expression.Path
import BicepTemplates.Manifest.Basic
import BicepTemplates.Manifest.Error

/-! # Documents from manifests

Mappings become objects and sequences become arrays; strings, whole numbers and truth values
become literals. A tag makes a reference, a function call or an interpolated string. Everything
else is refused at its address. Checks are made in the order of the manifest, and the first that
fails decides.
-/

namespace BicepTemplates

abbrev Conversion := Except ManifestError

namespace Conversion

def named {α : Type} (result : Except NameError α) : Conversion α :=
  result.mapError fun e => .engine (.name e)

def expressed {α : Type} (result : Except ExpressionError α) : Conversion α :=
  result.mapError fun e => .engine (.expression e)

def refuse {α : Type} (place : Address) (misfit : Misfit) : Conversion α :=
  .error (.unsupportedValue place misfit)

open Yaml (Value)

/-- Whole numbers of 64 bits, one of them for the sign. -/
def isLiteral (n : Int) : Bool :=
  -0x8000000000000000 ≤ n && n < 0x8000000000000000

/-- Only some whole numbers have a literal. -/
def integer (place : Address) (n : Int) : Conversion Expr :=
  if isLiteral n then .ok (.int n) else refuse place .wideInteger

def reference (place : Address) (v : Value) : Conversion Expr :=
  match v.string? with
  | some path => expressed (Expr.ofPath path)
  | none => refuse place .referenceWithoutText

/-- The name of a called function. -/
def calledName (place : Address) (entries : List (Value × Value)) : Conversion String :=
  match (Value.entry? (.text "name") entries).bind Value.string? with
  | some name => .ok name
  | none => refuse place .callWithoutName

mutual

/-- The expression a value stands for. -/
def expression (place : Address) : Value → Conversion Expr
  | .null => refuse place .null
  | .bool b => .ok (.bool b)
  | .int n => integer place n
  | .double _ => refuse place .double
  | .text s => .ok (.text s)
  | .seq _ => refuse place .sequence
  | .map _ => refuse place .mapping
  | .tagged "ref" v => reference place v
  | .tagged "call" (.map entries) => do
    let name ← calledName place entries
    return .call name (← arguments place entries)
  | .tagged "call" _ => refuse place .callWithoutName
  | .tagged "interpolate" (.seq items) => do
    expressed ((← segments place 0 "" {} items).build)
  | .tagged "interpolate" _ => refuse place .interpolationWithoutSequence
  | .tagged tag _ => .error (.unsupportedTag place tag)

/-- The arguments among the entries of a call. -/
def arguments (place : Address) : List (Value × Value) → Conversion (List Expr)
  | [] => .ok []
  | (.text "args", .seq items) :: _ => argumentItems place 0 items
  | (.text "args", _) :: _ => refuse place .argumentsWithoutSequence
  | _ :: rest => arguments place rest

def argumentItems (place : Address) (index : Nat) : List Value → Conversion (List Expr)
  | [] => .ok []
  | v :: rest => do
    let e ← expression (.argument place index) v
    return e :: (← argumentItems place (index + 1) rest)

/-- Adjacent strings make one literal, which may be empty. -/
def segments (place : Address) (index : Nat) (literal : String) (b : Interpolation) :
    List Value → Conversion Interpolation
  | [] => .ok (b.literal literal)
  | .text s :: rest => segments place (index + 1) (literal ++ s) b rest
  | v :: rest => do
    let e ← expression (.item place index) v
    segments place (index + 1) "" ((b.literal literal).expression e) rest

end

def keyName (place : Address) (key : Value) : Conversion String :=
  match key.string? with
  | some name => .ok name
  | none => refuse place .keyWithoutText

mutual

def property (place : Address) (name : String) : Value → Conversion Property
  | .map entries => do return .bag name (← properties place entries)
  | .seq items => do return .array name (← elements place 0 items)
  | v => do return .scalar name (← expression place v)

def properties (place : Address) : List (Value × Value) → Conversion (List Property)
  | [] => .ok []
  | (key, v) :: rest => do
    let name ← keyName place key
    let p ← property (.key place name) name v
    return p :: (← properties place rest)

def elements (place : Address) (index : Nat) : List Value → Conversion (List Element)
  | [] => .ok []
  | v :: rest => do
    let e ← element (.item place index) v
    return e :: (← elements place (index + 1) rest)

def element (place : Address) : Value → Conversion Element
  | .map entries => do return .bag (← properties place entries)
  | .seq items => do return .array "" (← elements place 0 items)
  | v => do return .scalar (← expression place v)

end

def parameter (p : ParameterEntry) : Conversion Parameter := do
  let name ← named (Name.ofString p.name)
  let default ← p.default.mapM (expression (.parameterDefault p.name))
  return { name, type := p.type, default, description := p.description }

def declaration (r : ResourceEntry) : Conversion Declaration := do
  let d ← named (Declaration.new r.name r.type)
  let properties ← properties (.resource r.name) r.properties
  let d := { d with properties }
  return if r.existing then d.existing else d

/-- The path is checked before the name. -/
def output (o : OutputEntry) : Conversion Output := do
  let value ← expressed (Expr.ofPath o.value)
  return { name := ← named (Name.ofString o.name), type := o.type, value }

end Conversion

open Conversion in
/-- The document a manifest describes. -/
def Manifest.document (m : Manifest) : Conversion Document := do
  let parameters ← m.parameters.mapM parameter
  let resources ← m.resources.mapM declaration
  let outputs ← m.outputs.mapM output
  return { targetScope := m.targetScope, parameters,
           resources := resources.map .declaration, outputs }

end BicepTemplates
