import BicepTemplates.Error
import BicepTemplates.Expression
import BicepTemplates.Text.Blank
import BicepTemplates.Text.Identifier

/-! # Property paths

A dotted path `a.b.c` is a chain of member accesses on a symbol. The first segment may also be a
function without arguments, written `f()`.
-/

namespace BicepTemplates

/-- The pieces between the dots, in order. -/
def dotted : List Char → List (List Char)
  | [] => [[]]
  | c :: rest =>
    if c = '.' then [] :: dotted rest
    else match dotted rest with
      | [] => [[c]]
      | segment :: segments => (c :: segment) :: segments

namespace Expr

/-- A symbol, or a call if the segment ends in `()`. -/
def ofHead? (segment : List Char) : Option Expr :=
  if isIdentifierWord segment then some (.symbol (String.ofList segment))
  else match segment.reverse with
    | ')' :: '(' :: function =>
      if isIdentifierWord function.reverse then some (.call (String.ofList function.reverse) [])
      else none
    | _ => none

/-- Accesses the segments one after the other, up to the first that is no identifier. -/
def members (path : String) (base : Expr) : List (List Char) → Except ExpressionError Expr
  | [] => .ok base
  | segment :: segments =>
    if isIdentifierWord segment then members path (.member base (String.ofList segment)) segments
    else .error (.invalidPathSegment path (String.ofList segment))

def ofPath (path : String) : Except ExpressionError Expr :=
  if path.toList.all Blank.isBlank then .error .emptyPath
  else match dotted path.toList with
    | [] => .error .emptyPath
    | head :: segments =>
      match ofHead? head with
      | some base => members path base segments
      | none => .error (.invalidPathSegment path (String.ofList head))

end Expr

end BicepTemplates
