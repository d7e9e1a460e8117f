import BicepTemplates.Text.Quoted

/-! # Expressions

What can stand to the right of a key: literals, symbols, function calls, member access and
interpolated strings. An interpolated string starts and ends with literal text and alternates it
with expressions, so it always has one literal more than it has expressions, and at least one
expression.
-/

namespace BicepTemplates

mutual

inductive Expr where
  | text (value : String)
  | int (value : Int)
  | bool (value : Bool)
  | symbol (name : String)
  | call (name : String) (args : List Expr)
  | member (base : Expr) (name : String)
  | interpolation (first : String) (hole : Expr) (rest : Segments)

/-- What follows the first expression of an interpolated string. -/
inductive Segments where
  | last (literal : String)
  | next (literal : String) (hole : Expr) (rest : Segments)

end

deriving instance BEq, Repr, Inhabited for Expr, Segments

namespace Segments

def literals : Segments → List String
  | .last literal => [literal]
  | .next literal _ rest => literal :: rest.literals

def expressions : Segments → List Expr
  | .last _ => []
  | .next _ hole rest => hole :: rest.expressions

theorem length_literals (s : Segments) : s.literals.length = s.expressions.length + 1 := by
  fun_induction literals s with
  | case1 => rfl
  | case2 _ _ rest ih => simp [expressions, ih]

end Segments

/-- Decimal digits, after a minus sign for a negative number. -/
def decimal : Int → List Char
  | .ofNat n => Nat.toDigits 10 n
  | .negSucc n => '-' :: Nat.toDigits 10 (n + 1)

mutual

/-- Arguments are separated by commas alone. -/
def Expr.chars : Expr → List Char
  | .text value => Quoted.encode value.toList
  | .int value => decimal value
  | .bool true => ['t', 'r', 'u', 'e']
  | .bool false => ['f', 'a', 'l', 's', 'e']
  | .symbol name => name.toList
  | .call name args => name.toList ++ '(' :: argsChars args ++ [')']
  | .member base name => base.chars ++ '.' :: name.toList
  | .interpolation first hole rest =>
    '\'' :: Quoted.escape first.toList ++ '$' :: '{' :: hole.chars ++ '}' :: rest.chars

def argsChars : List Expr → List Char
  | [] => []
  | arg :: rest => arg.chars ++ moreArgsChars rest

def moreArgsChars : List Expr → List Char
  | [] => []
  | arg :: rest => ',' :: arg.chars ++ moreArgsChars rest

def Segments.chars : Segments → List Char
  | .last literal => Quoted.escape literal.toList ++ ['\'']
  | .next literal hole rest =>
    Quoted.escape literal.toList ++ '$' :: '{' :: hole.chars ++ '}' :: rest.chars

end

namespace Expr

def render (e : Expr) : String :=
  String.ofList e.chars

/-- The text an expression gives to a derived identifier: a string literal without its quotes,
anything else as rendered. -/
def seed : Expr → String
  | .text value => value
  | e => e.render

/-- Adds an argument to a call and leaves everything else alone. -/
def withArgument (argument : Expr) : Expr → Expr
  | .call name args => .call name (args ++ [argument])
  | e => e

end Expr

end BicepTemplates
