import BicepTemplates.Interface
import BicepTemplates.Yaml.Value

/-! # Manifests

A manifest describes a document as data. Names are still plain text, and what can stand in place
of an expression is a YAML value, with tags for references, calls and interpolation.
-/

namespace BicepTemplates

structure ParameterEntry where
  name : String
  type : ValueType
  default : Option Yaml.Value := none
  description : Option String := none

structure ResourceEntry where
  name : String
  type : String
  existing : Bool := false
  properties : List (Yaml.Value × Yaml.Value) := []

structure OutputEntry where
  name : String
  type : ValueType
  /-- A property path. -/
  value : String

structure Manifest where
  targetScope : TargetScope := .resourceGroup
  parameters : List ParameterEntry := []
  resources : List ResourceEntry := []
  outputs : List OutputEntry := []

end BicepTemplates
