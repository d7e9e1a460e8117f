import BicepTemplates.Error
import BicepTemplates.Expression

/-! # Building interpolated strings

Literals and expressions are collected separately and then alternate, starting with a literal.
Degenerate counts are repaired where the result is clear: without expressions the literals join to
a plain string, without literals the first expression stands alone, and a missing last literal is
empty.
-/

namespace BicepTemplates

structure Interpolation where
  literals : List String := []
  expressions : List Expr := []

/-- Pairs what follows the first expression, if there are as many literals as expressions or one
more. -/
def Segments.zip? : List String → List Expr → Option Segments
  | [], [] => some (.last "")
  | [literal], [] => some (.last literal)
  | literal :: literals, hole :: expressions =>
    (zip? literals expressions).map (.next literal hole)
  | _, _ => none

namespace Interpolation

def literal (text : String) (b : Interpolation) : Interpolation :=
  { b with literals := b.literals ++ [text] }

def expression (hole : Expr) (b : Interpolation) : Interpolation :=
  { b with expressions := b.expressions ++ [hole] }

def build (b : Interpolation) : Except ExpressionError Expr :=
  match b.literals, b.expressions with
  | literals, [] => .ok (.text (String.join literals))
  | [], hole :: _ => .ok hole
  | first :: literals, hole :: expressions =>
    match Segments.zip? literals expressions with
    | some rest => .ok (.interpolation first hole rest)
    | none => .error (.segmentMismatch b.literals.length b.expressions.length)

end Interpolation

end BicepTemplates
