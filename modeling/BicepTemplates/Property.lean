import BicepTemplates.Expression
import BicepTemplates.Layout
import BicepTemplates.Text.Identifier

/-! # Property trees

The body of a resource is a list of properties: a key with an expression, an object or an array.
Children keep their order; nothing is sorted, merged or dropped. A node does not know how deep it
is nested, so it can be built once and placed anywhere.
-/

namespace BicepTemplates

mutual

inductive Property where
  | scalar (name : String) (value : Expr)
  /-- An object, written without its key if it is `valueOnly`. -/
  | object (name : String) (valueOnly : Bool) (properties : List Property)
  | array (name : String) (elements : List Element)

/-- An array element. Objects and arrays keep a name that is never written. -/
inductive Element where
  | scalar (value : Expr)
  | object (name : String) (valueOnly : Bool) (properties : List Property)
  | array (name : String) (elements : List Element)

end

deriving instance BEq, Repr, Inhabited for Property, Element

namespace Property

def name : Property → String
  | scalar name _ => name
  | object name _ _ => name
  | array name _ => name

/-- An object under its key. -/
def bag (name : String) (properties : List Property) : Property :=
  object name false properties

def text (name value : String) : Property :=
  scalar name (.text value)

def int (name : String) (value : Int) : Property :=
  scalar name (.int value)

def bool (name : String) (value : Bool) : Property :=
  scalar name (.bool value)

end Property

namespace Element

/-- An object without a name of its own. -/
def bag (properties : List Property) : Element :=
  object "" true properties

def text (value : String) : Element :=
  scalar (.text value)

end Element

/-- A key stands bare if it is an identifier and is quoted otherwise. -/
def keyText (name : String) : String :=
  (if isIdentifier name then name else Quoted.literal name) ++ ": "

mutual

def Property.layout : Property → Layout
  | .scalar name value => fun d => (d.write (keyText name)).write value.render
  | .object name valueOnly properties => fun d =>
    Layout.block .object (propertyLayouts properties)
      (if valueOnly then d else d.write (keyText name))
  | .array name elements => fun d =>
    Layout.block .array (elementLayouts elements) (d.write (keyText name))

def Element.layout : Element → Layout
  | .scalar value => fun d => d.write value.render
  | .object _ _ properties => Layout.block .object (propertyLayouts properties)
  | .array _ elements => Layout.block .array (elementLayouts elements)

def propertyLayouts : List Property → List Layout
  | [] => []
  | p :: rest => p.layout :: propertyLayouts rest

def elementLayouts : List Element → List Layout
  | [] => []
  | e :: rest => e.layout :: elementLayouts rest

end

def Property.renderAt (p : Property) (level : Level) : String :=
  Layout.renderAt p.layout level

end BicepTemplates
