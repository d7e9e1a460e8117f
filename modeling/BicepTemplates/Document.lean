import BicepTemplates.Registry
import BicepTemplates.Resource.Kinds

/-! # Documents

A document becomes one template: the target scope, the parameters, the resources with all they
own, and the outputs, each in the order they were added. Blocks are separated by a blank line, the
outputs stand together, and the text ends with a single line break. No two parameters or resources
may share a symbol, and no two outputs a name.
-/

namespace BicepTemplates

structure Document where
  targetScope : TargetScope := .resourceGroup
  parameters : List Parameter := []
  resources : List Resource := []
  outputs : List Output := []
  registry : Registry := {}

/-- A step that changes a document and may fail. -/
abbrev Editing := ExceptT Error (StateM Document)

namespace Document

/-- The parameters a host supplies to every template. -/
def hostParameters (includePrincipal : Bool) : List Parameter :=
  { name := ⟨"location", rfl⟩
    type := .string
    default := some (.member (.call "resourceGroup" []) "location")
    description := some "The location of the resource group." } ::
  if includePrincipal then
    [{ name := ⟨"principalId", rfl⟩
       type := .string
       description := some "Principal ID supplied by the host" },
     { name := ⟨"principalType", rfl⟩
       type := .string
       description := some "Principal type supplied by the host" }]
  else []

def withHostParameters (includePrincipal : Bool) : Document :=
  { parameters := hostParameters includePrincipal }

def addParameter (p : Parameter) (d : Document) : Document :=
  { d with parameters := d.parameters ++ [p] }

def addResource (r : Resource) (d : Document) : Document :=
  { d with resources := d.resources ++ [r] }

def addOutput (o : Output) (d : Document) : Document :=
  { d with outputs := d.outputs ++ [o] }

/-- Runs a step on the registry of the document. -/
def allocating {α : Type} (step : Allocation α) : Editing α := do
  let (result, registry) := step.run (← get).registry
  modify fun d => { d with registry }
  ExceptT.mk (pure result)

/-- Declares a reference to a resource that another template creates, and gives its symbol. -/
def addExisting (type : String) (reference : Expr) : Editing Expr := do
  let existing ← allocating (ExistingResource.allocate type reference)
  modify (addResource (.existing existing))
  return existing.header.name.reference

/-- All resources in the order they are declared. -/
def declarations (d : Document) : List Resource :=
  d.resources.flatMap Resource.family

/-- The first entry that equals an earlier one. -/
def firstRepeated (seen : List String) : List String → Option String
  | [] => none
  | name :: rest => if seen.contains name then some name else firstRepeated (name :: seen) rest

def symbols (d : Document) : List String :=
  d.parameters.map (·.name.text) ++ d.declarations.map (·.name.text)

def checkSymbols (d : Document) : Except Error Unit :=
  match firstRepeated [] d.symbols with
  | some name => .error (.duplicateSymbol name)
  | none =>
    match firstRepeated [] (d.outputs.map (·.name.text)) with
    | some name => .error (.duplicateSymbol name)
    | none => .ok ()

def scopeBlock (d : Document) : String :=
  "targetScope = " ++ Quoted.literal d.targetScope.text

def parameterBlocks (d : Document) : List String :=
  d.parameters.map fun p => Layout.renderAt p.layout 0

def outputBlocks (d : Document) : List String :=
  if d.outputs.isEmpty then []
  else ["\n".intercalate (d.outputs.map fun o => Layout.renderAt o.layout 0)]

/-- The whole template, with the warnings of all resources. -/
def render (d : Document) : Except Error (String × List Warning) := do
  d.checkSymbols
  let declared ← d.declarations.mapM Resource.render
  let blocks :=
    d.scopeBlock :: d.parameterBlocks ++ declared.map (·.1) ++ d.outputBlocks
  return ("\n\n".intercalate blocks ++ "\n", declared.flatMap (·.2))

end Document

end BicepTemplates
