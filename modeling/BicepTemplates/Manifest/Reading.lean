import BicepTemplates.Manifest.Basic
import BicepTemplates.Manifest.Mismatch

/-! # Reading manifests

A manifest is read from a tree of nodes. How a string, a list or a record shows in a node depends
on the kind of tree, and is given by a view. Entries are read in their order, and the first
mismatch ends the reading; missing fields are noticed after that, in the order of the record.
-/

namespace BicepTemplates

/-- Ways to look at a node. What is not there, or cannot be made sense of, gives nothing. -/
structure View (α : Type) where
  found? : α → Option Found
  text? : α → Option String
  bool? : α → Option Bool
  items? : α → Option (List α)
  entries? : α → Option (List (α × α))
  /-- Whether the node stands for a value that is there. -/
  given? : α → Option Bool
  value? : α → Option Yaml.Value
  /-- How an entry is named in a location. -/
  step : α → PathStep

/-- Why a part of a manifest has no reading: it is refused as YAML, or it does not match. -/
abbrev Reading := Except LoadError

namespace Reading

variable {α ρ β : Type}

def mismatch (place : Location) (m : Mismatch) : Reading β :=
  .error (.data ⟨place, m⟩)

/-- The wanted part, or what was found in its stead. -/
def want (view : View α) (wanted : Wanted) (get? : α → Option β) (place : Location) (node : α) :
    Reading β :=
  match get? node, view.found? node with
  | some part, _ => .ok part
  | none, some found => mismatch place (.unexpected found wanted)
  | none, none => .error .unloadable

def text (view : View α) : Location → α → Reading String :=
  want view .text view.text?

def bool (view : View α) : Location → α → Reading Bool :=
  want view .bool view.bool?

def value (view : View α) (node : α) : Reading Yaml.Value :=
  match view.value? node with
  | some v => .ok v
  | none => .error .unloadable

/-- Nothing for a node that stands for nothing. -/
def optional (view : View α) (read : α → Reading β) (node : α) : Reading (Option β) :=
  match view.given? node with
  | some true => some <$> read node
  | some false => .ok none
  | none => .error .unloadable

/-- A list, read item by item. -/
def list (view : View α) (read : Location → α → Reading β) (place : Location) (node : α) :
    Reading (List β) := do
  let items ← want view .sequence view.items? place node
  items.zipIdx.mapM fun (item, index) => read (.item index :: place) item

/-- The entries of a mapping as values. No key may come twice. -/
def mapping (view : View α) (place : Location) (node : α) :
    Reading (List (Yaml.Value × Yaml.Value)) := do
  let entries ← want view .mapping view.entries? place node
  entries.foldlM (fun read (key, v) => do
    let key ← value view key
    if (Yaml.Value.entry? key read).isSome then throw .unloadable
    return read ++ [(key, ← value view v)]) []

/-- A field of a record that is being read. -/
structure Field (α ρ : Type) where
  name : String
  isSet : ρ → Bool
  /-- Reads the field, given the location of the record and of the field. -/
  read : Location → Location → α → ρ → Reading ρ

/-- Reads one entry into the record. -/
def entry (view : View α) (fields : List (Field α ρ)) (place : Location) (record : ρ)
    (key node : α) : Reading ρ := do
  let name ← want view .fieldName view.text? place key
  match fields.find? (·.name == name) with
  | none => mismatch place (.unknownField name (fields.map (·.name)))
  | some field =>
    if field.isSet record then mismatch place (.repeatedField name)
    else field.read place (view.step key :: place) node record

/-- Reads all entries of a mapping into a record that starts out empty. -/
def record (view : View α) (name : String) (fields : List (Field α ρ)) (empty : ρ)
    (place : Location) (node : α) : Reading ρ := do
  let entries ← want view (.record name) view.entries? place node
  entries.foldlM (fun record (key, v) => entry view fields place record key v) empty

def required (place : Location) (name : String) : Option β → Reading β
  | some b => .ok b
  | none => mismatch place (.missingField name)

/-- A name out of a fixed choice. The choice is made for the record, so a name that is none is
reported there. -/
def choice (view : View α) (ofString : String → Except Error β) (recordPlace place : Location)
    (node : α) : Reading β := do
  let name ← text view place node
  match ofString name with
  | .ok b => return b
  | .error e => mismatch recordPlace (.unsupported e)

/-! ## Records -/

structure ParameterDraft where
  name : Option String := none
  type : Option ValueType := none
  default : Option (Option Yaml.Value) := none
  description : Option (Option String) := none

def parameterFields (view : View α) : List (Field α ParameterDraft) :=
  [⟨"name", (·.name.isSome), fun _ place node d => do
      return { d with name := ← text view place node }⟩,
    ⟨"type", (·.type.isSome), fun parent place node d => do
      return { d with type := ← choice view ValueType.ofString parent place node }⟩,
    ⟨"default", (·.default.isSome), fun _ _ node d => do
      return { d with default := some (← optional view (value view) node) }⟩,
    ⟨"description", (·.description.isSome), fun _ place node d => do
      return { d with description := some (← optional view (text view place) node) }⟩]

def parameter (view : View α) (place : Location) (node : α) : Reading ParameterEntry := do
  let d ← record view "ParameterEntry" (parameterFields view) {} place node
  return {
    name := ← required place "name" d.name
    type := ← required place "type" d.type
    default := d.default.getD none
    description := d.description.getD none }

structure ResourceDraft where
  name : Option String := none
  type : Option String := none
  existing : Option Bool := none
  properties : Option (List (Yaml.Value × Yaml.Value)) := none

def resourceFields (view : View α) : List (Field α ResourceDraft) :=
  [⟨"name", (·.name.isSome), fun _ place node d => do
      return { d with name := ← text view place node }⟩,
    ⟨"type", (·.type.isSome), fun _ place node d => do
      return { d with type := ← text view place node }⟩,
    ⟨"existing", (·.existing.isSome), fun _ place node d => do
      return { d with existing := ← bool view place node }⟩,
    ⟨"properties", (·.properties.isSome), fun _ place node d => do
      return { d with properties := some (← mapping view place node) }⟩]

def resource (view : View α) (place : Location) (node : α) : Reading ResourceEntry := do
  let d ← record view "ResourceEntry" (resourceFields view) {} place node
  return {
    name := ← required place "name" d.name
    type := ← required place "type" d.type
    existing := d.existing.getD false
    properties := d.properties.getD [] }

structure OutputDraft where
  name : Option String := none
  type : Option ValueType := none
  value : Option String := none

def outputFields (view : View α) : List (Field α OutputDraft) :=
  [⟨"name", (·.name.isSome), fun _ place node d => do
      return { d with name := ← text view place node }⟩,
    ⟨"type", (·.type.isSome), fun parent place node d => do
      return { d with type := ← choice view ValueType.ofString parent place node }⟩,
    ⟨"value", (·.value.isSome), fun _ place node d => do
      return { d with value := ← text view place node }⟩]

def output (view : View α) (place : Location) (node : α) : Reading OutputEntry := do
  let d ← record view "OutputEntry" (outputFields view) {} place node
  return {
    name := ← required place "name" d.name
    type := ← required place "type" d.type
    value := ← required place "value" d.value }

structure ManifestDraft where
  targetScope : Option TargetScope := none
  parameters : Option (List ParameterEntry) := none
  resources : Option (List ResourceEntry) := none
  outputs : Option (List OutputEntry) := none

def manifestFields (view : View α) : List (Field α ManifestDraft) :=
  [⟨"targetScope", (·.targetScope.isSome), fun parent place node d => do
      return { d with targetScope := ← choice view TargetScope.ofString parent place node }⟩,
    ⟨"parameters", (·.parameters.isSome), fun _ place node d => do
      return { d with parameters := some (← list view (parameter view) place node) }⟩,
    ⟨"resources", (·.resources.isSome), fun _ place node d => do
      return { d with resources := some (← list view (resource view) place node) }⟩,
    ⟨"outputs", (·.outputs.isSome), fun _ place node d => do
      return { d with outputs := some (← list view (output view) place node) }⟩]

def manifest (view : View α) (node : α) : Reading Manifest := do
  let d ← record view "Manifest" (manifestFields view) {} [] node
  return {
    targetScope := d.targetScope.getD .resourceGroup
    parameters := d.parameters.getD []
    resources := d.resources.getD []
    outputs := d.outputs.getD [] }

end Reading

/-- A value as it is: tags do not count around anything but free values, and null is an empty
list or record. -/
def View.ofValues : View Yaml.Value where
  found? v := some (Found.ofValue v)
  text? := Yaml.Value.string?
  bool? v := match v.untagged with
    | .bool b => some b
    | _ => none
  items? v := match v.untagged with
    | .seq items => some items
    | .null => some []
    | _ => none
  entries? v := match v.untagged with
    | .map entries => some entries
    | .null => some []
    | _ => none
  given?
    | .null => some false
    | _ => some true
  value? := some
  step _ := .unnamed

/-- A value has no locations, so only what is wrong is told. -/
def Manifest.ofValue (v : Yaml.Value) : Except LoadError Manifest :=
  (Reading.manifest View.ofValues v).mapError fun
    | .data e => .data { e with location := [] }
    | e => e

end BicepTemplates
