/-! # Errors

Each error is a cause. The text shown for it is written in one place, `message`.
-/

namespace BicepTemplates

/-- A symbolic name is unusable. -/
inductive NameError where
  | empty
  | invalidCharacter (name : String) (character : Char)
  | length (name : String) (min max : Nat)
  deriving DecidableEq, Repr

def NameError.message : NameError → String
  | .empty => "name must not be empty"
  | .invalidCharacter name character =>
    s!"name `{name}` contains `{character}`, only A-Z, a-z, 0-9 and _ are allowed"
  | .length name min max => s!"name `{name}` must be between {min} and {max} characters long"

/-- The field values of a resource break one of its rules. -/
inductive ValidationError where
  | mutuallyExclusive (first second : String)
  | missingField (field reason : String)
  | outOfRange (field : String) (value min max : Int)
  | unsupported (text : String)
  deriving DecidableEq, Repr

def ValidationError.message : ValidationError → String
  | .mutuallyExclusive first second => s!"`{first}` and `{second}` are mutually exclusive"
  | .missingField field reason => s!"`{field}` is required {reason}"
  | .outOfRange field value min max =>
    s!"`{field}` is {value} but must be between {min} and {max}"
  | .unsupported text => text

/-- An expression cannot be built from the given parts. -/
inductive ExpressionError where
  | segmentMismatch (literals expressions : Nat)
  | emptyPath
  | invalidPathSegment (path segment : String)
  deriving DecidableEq, Repr

def ExpressionError.message : ExpressionError → String
  | .segmentMismatch literals expressions =>
    s!"interpolated string has {literals} literal and {expressions} expression segments, " ++
      "expected one more literal than expressions"
  | .emptyPath => "property path must not be empty"
  | .invalidPathSegment path segment =>
    s!"property path `{path}` has an invalid segment `{segment}`"

/-- The steps a resource goes through on its way to text. -/
inductive Stage where
  | validating
  | constructing
  | rendered
  deriving DecidableEq, Repr

def Stage.text : Stage → String
  | .validating => "validating"
  | .constructing => "constructing"
  | .rendered => "rendered"

/-- Everything the rendering of a template can fail with. -/
inductive Error where
  | name (cause : NameError)
  | validation (resource : String) (stage : Stage) (cause : ValidationError)
  | expression (cause : ExpressionError)
  | unsupportedVariant (kind variant : String)
  | duplicateSymbol (symbol : String)
  | identifierCollision (identifier first second : String)
  deriving DecidableEq, Repr

def Error.message : Error → String
  | .name cause => cause.message
  | .validation resource stage cause =>
    s!"resource `{resource}` is invalid ({stage.text}): {cause.message}"
  | .expression cause => cause.message
  | .unsupportedVariant kind variant => s!"unsupported {kind}: {variant}"
  | .duplicateSymbol symbol => s!"`{symbol}` is declared more than once"
  | .identifierCollision identifier first second =>
    s!"seeds `{first}` and `{second}` both allocate identifier `{identifier}`"

end BicepTemplates
