/-! # Quoted strings

A string literal stands between single quotes. Backslash, quote, line feed, carriage return and
tab are written as escapes. A dollar sign is escaped exactly when an opening brace follows it in
the same string, because the two together would open an expression.
-/

namespace BicepTemplates.Quoted

/-- The text between the quotes. -/
def escape : List Char → List Char
  | [] => []
  | '\\' :: rest => '\\' :: '\\' :: escape rest
  | '\'' :: rest => '\\' :: '\'' :: escape rest
  | '\n' :: rest => '\\' :: 'n' :: escape rest
  | '\r' :: rest => '\\' :: 'r' :: escape rest
  | '\t' :: rest => '\\' :: 't' :: escape rest
  | '$' :: '{' :: rest => '\\' :: '$' :: '{' :: escape rest
  | c :: rest => c :: escape rest

/-- The whole literal, quotes included. -/
def encode (value : List Char) : List Char :=
  '\'' :: escape value ++ ['\'']

/-- The literal that stands for a string. -/
def literal (value : String) : String :=
  String.ofList (encode value.toList)

end BicepTemplates.Quoted
