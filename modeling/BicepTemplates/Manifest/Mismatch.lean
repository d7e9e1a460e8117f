import BicepTemplates.Double.Shortest
import BicepTemplates.Error
import BicepTemplates.Expression
import BicepTemplates.File.Error
import BicepTemplates.Text.Inspected
import BicepTemplates.Yaml.Value

/-! # Mismatches

YAML that can be read may still not have the shape of a manifest. A mismatch tells what was found
and what was wanted, and a location where.
-/

namespace BicepTemplates

/-- What a node is, whatever it contains. -/
inductive Found where
  | unit
  | bool (value : Bool)
  | integer (value : Int)
  | double (value : Double)
  | text (value : String)
  | sequence
  | mapping

namespace Found

def describe : Found → String
  | unit => "unit value"
  | bool value => s!"boolean `{(Expr.bool value).render}`"
  | integer value => s!"integer `{(Expr.int value).render}`"
  | double value => s!"floating point `{value.text}`"
  | text value => s!"string {Inspected.inspect value}"
  | sequence => "sequence"
  | mapping => "map"

/-- Tags do not count. -/
def ofValue (v : Yaml.Value) : Found :=
  match v.untagged with
  | .bool b => bool b
  | .int n => integer n
  | .double d => double d
  | .text s => text s
  | .seq _ => sequence
  | .map _ => mapping
  | _ => unit

end Found

inductive Wanted where
  | record (name : String)
  | sequence
  | text
  | bool
  | mapping
  | fieldName
  deriving DecidableEq, Repr

def Wanted.describe : Wanted → String
  | record name => s!"struct {name}"
  | sequence => "a sequence"
  | text => "a string"
  | bool => "a boolean"
  | mapping => "a YAML mapping"
  | fieldName => "field identifier"

inductive Mismatch where
  | unexpected (found : Found) (wanted : Wanted)
  | unknownField (name : String) (known : List String)
  | missingField (name : String)
  | repeatedField (name : String)
  | unsupported (cause : Error)

def Mismatch.message : Mismatch → String
  | unexpected found wanted => s!"invalid type: {found.describe}, expected {wanted.describe}"
  | unknownField name known =>
    s!"unknown field `{name}`, expected one of " ++
      ", ".intercalate (known.map fun field => s!"`{field}`")
  | missingField name => s!"missing field `{name}`"
  | repeatedField name => s!"duplicate field `{name}`"
  | unsupported cause => cause.message

/-- One step from a node to a part of it. -/
inductive PathStep where
  | field (name : String)
  | item (index : Nat)
  /-- An entry whose key is not written in its place. -/
  | unnamed
  deriving DecidableEq, Repr

/-- The steps from the manifest to a node, last first. -/
abbrev Location := List PathStep

namespace Location

def dotted (parent name : String) : String :=
  if parent.isEmpty then name else s!"{parent}.{name}"

def text : Location → String
  | [] => ""
  | .item index :: parent => s!"{text parent}[{index}]"
  | .field name :: parent => dotted (text parent) name
  | .unnamed :: parent => dotted (text parent) "?"

end Location

/-- A mismatch at its location, which is not told for the manifest as a whole. -/
structure DataError where
  location : Location
  mismatch : Mismatch

def DataError.message (e : DataError) : String :=
  if e.location.isEmpty then e.mismatch.message
  else s!"{e.location.text}: {e.mismatch.message}"

/-- Why no manifest is obtained. -/
inductive LoadError where
  | file (cause : FileError)
  /-- It is not even YAML. -/
  | unloadable
  | data (cause : DataError)

def LoadError.message : LoadError → String
  | file cause => cause.message
  | unloadable => "the manifest is not a YAML document"
  | data cause => cause.message

end BicepTemplates
