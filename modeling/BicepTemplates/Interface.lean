import BicepTemplates.Layout
import BicepTemplates.Name

/-! # The interface of a template

The scope a template is deployed to, the parameters it takes and the outputs it gives.
-/

namespace BicepTemplates

inductive TargetScope where
  | resourceGroup
  | subscription
  | managementGroup
  | tenant
  deriving DecidableEq, Repr

namespace TargetScope

def text : TargetScope → String
  | resourceGroup => "resourceGroup"
  | subscription => "subscription"
  | managementGroup => "managementGroup"
  | tenant => "tenant"

def all : List TargetScope := [resourceGroup, subscription, managementGroup, tenant]

def ofString (s : String) : Except Error TargetScope :=
  match all.find? (·.text == s) with
  | some scope => .ok scope
  | none => .error (.unsupportedVariant "target scope" s)

end TargetScope

/-- The types a parameter or an output can be declared with. -/
inductive ValueType where
  | string
  | int
  | bool
  | object
  | array
  deriving DecidableEq, Repr

namespace ValueType

def text : ValueType → String
  | string => "string"
  | int => "int"
  | bool => "bool"
  | object => "object"
  | array => "array"

def all : List ValueType := [string, int, bool, object, array]

def ofString (s : String) : Except Error ValueType :=
  match all.find? (·.text == s) with
  | some type => .ok type
  | none => .error (.unsupportedVariant "type" s)

end ValueType

structure Parameter where
  name : Name
  type : ValueType
  default : Option Expr := none
  description : Option String := none

namespace Parameter

/-- The declaration, below the description if there is one. -/
def layout (p : Parameter) : Layout := fun d =>
  let described := match p.description with
    | some s => (((d.write "@description(").write (Quoted.literal s)).write ")").newline
    | none => d
  let declared := (((described.write "param ").write p.name.text).write " ").write p.type.text
  match p.default with
  | some value => (declared.write " = ").write value.render
  | none => declared

end Parameter

structure Output where
  name : Name
  type : ValueType
  value : Expr

namespace Output

def layout (o : Output) : Layout := fun d =>
  (((((d.write "output ").write o.name.text).write " ").write o.type.text).write " = ").write
    o.value.render

end Output

end BicepTemplates
