import BicepTemplates.Error

/-! # Errors of manifests

A value that has no counterpart in a template is reported with its address: where it stands,
counted from the parameter or the resource it belongs to.
-/

namespace BicepTemplates

inductive Address where
  | parameterDefault (name : String)
  | resource (name : String)
  | key (parent : Address) (name : String)
  | item (parent : Address) (index : Nat)
  | argument (parent : Address) (index : Nat)
  deriving DecidableEq, Repr

def Address.text : Address → String
  | parameterDefault name => s!"parameters.{name}.default"
  | resource name => s!"resources.{name}"
  | key parent name => s!"{parent.text}.{name}"
  | item parent index => s!"{parent.text}[{index}]"
  | argument parent index => s!"{parent.text}.args[{index}]"

/-- What a value is that cannot be used where it stands. -/
inductive Misfit where
  | null
  | double
  | wideInteger
  | sequence
  | mapping
  | keyWithoutText
  | referenceWithoutText
  | callWithoutName
  | argumentsWithoutSequence
  | interpolationWithoutSequence
  deriving DecidableEq, Repr

def Misfit.text : Misfit → String
  | null => "null"
  | double => "floating point number"
  | wideInteger => "integer out of range"
  | sequence => "sequence in expression position"
  | mapping => "mapping in expression position"
  | keyWithoutText => "non-string key"
  | referenceWithoutText => "non-string reference"
  | callWithoutName => "function call without name"
  | argumentsWithoutSequence => "function arguments that are not a sequence"
  | interpolationWithoutSequence => "interpolation that is not a sequence"

inductive ManifestError where
  | unsupportedTag (address : Address) (tag : String)
  | unsupportedValue (address : Address) (misfit : Misfit)
  | engine (cause : Error)
  deriving DecidableEq, Repr

def ManifestError.message : ManifestError → String
  | unsupportedTag address tag => s!"unsupported tag `!{tag}` at `{address.text}`"
  | unsupportedValue address misfit => s!"unsupported {misfit.text} at `{address.text}`"
  | engine cause => cause.message

end BicepTemplates
