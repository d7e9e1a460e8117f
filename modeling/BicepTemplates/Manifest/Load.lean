import BicepTemplates.Manifest.Reading
import BicepTemplates.Yaml.Tree

/-! # Manifests from text

Where a string is wanted, a scalar counts as it is written, whatever it would mean as a value. An
empty scalar stands for an empty list or record, and tags do not count except around free values.
If the text has no value at all, no mismatch is reported.
-/

namespace BicepTemplates

open Yaml (Tree ScalarStyle)

namespace View

def isEmptyScalar : Tree → Bool
  | .scalar _ .plain "" => true
  | _ => false

/-- A truth value is a plain scalar under any tag, or a literal scalar under its own. -/
def scalarBool? (tag : Option String) (style : ScalarStyle) (text : String) : Option Bool :=
  if style = .plain ∨ (style = .literal ∧ tag = some (Tree.coreTag "bool")) then
    Yaml.Resolution.bool? text
  else none

/-- A scalar stands for nothing if it is empty or null. -/
def scalarGiven? (tag : Option String) (style : ScalarStyle) (text : String) : Option Bool :=
  if style ≠ .plain then some true
  else match tag with
    | none => some (!Yaml.Resolution.isNull text)
    | some tag =>
      if tag = Tree.coreTag "null" then
        if Yaml.Resolution.isNull text && !text.isEmpty then some false else none
      else some true

def ofTrees : View Tree where
  found? t := match t.target with
    | .scalar tag style text => (Tree.scalarValue? tag style text).map Found.ofValue
    | .sequence .. => some .sequence
    | _ => some .mapping
  text? t := match t.target with
    | .scalar _ _ text => some text
    | _ => none
  bool? t := match t.target with
    | .scalar tag style text => scalarBool? tag style text
    | _ => none
  items? t := match t.target with
    | .sequence _ items => some items
    | t => if isEmptyScalar t then some [] else none
  entries? t := match t.target with
    | .mapping _ entries => some entries
    | t => if isEmptyScalar t then some [] else none
  given? t := match t.target with
    | .scalar tag style text => scalarGiven? tag style text
    | _ => some true
  value? := Tree.value?
  step
    | .scalar _ _ text => .field text
    | _ => .unnamed

end View

namespace Manifest

/-- A text without a document is an empty manifest. -/
def ofText (s : String) : Except LoadError Manifest :=
  match Tree.ofText? s with
  | none => .error .unloadable
  | some none => .ok {}
  | some (some t) =>
    match Reading.manifest View.ofTrees t with
    | .ok m => .ok m
    | .error e => .error (if t.value?.isSome then e else .unloadable)

/-- Input that is not text in UTF-8 is not YAML either. -/
def ofBytes (bytes : ByteArray) : Except LoadError Manifest :=
  match String.fromUTF8? bytes with
  | some s => ofText s
  | none => .error .unloadable

/-- A file has to hold text before it is looked at as YAML. -/
def ofFile (contents : Except FileError ByteArray) : Except LoadError Manifest :=
  match contents with
  | .error e => .error (.file e)
  | .ok bytes => match String.fromUTF8? bytes with
    | some s => ofText s
    | none => .error (.file .notText)

end Manifest

end BicepTemplates
