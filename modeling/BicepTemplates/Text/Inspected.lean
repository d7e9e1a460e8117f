import BicepTemplates.Text.Hidden

/-! # Text for inspection

A string is shown between double quotes so that every character can be told: quotes, backslashes
and the usual white space have short escapes, and other characters that do not show are written by
their code points.
-/

namespace BicepTemplates.Inspected

def codePoint (c : Char) : List Char :=
  '\\' :: 'u' :: '\x7b' :: Nat.toDigits 16 c.toNat ++ ['\x7d']

def escape : Char → List Char
  | '"' => ['\\', '"']
  | '\\' => ['\\', '\\']
  | '\n' => ['\\', 'n']
  | '\r' => ['\\', 'r']
  | '\t' => ['\\', 't']
  | '\x00' => ['\\', '0']
  | c => if Hidden.isHidden c then codePoint c else [c]

def inspect (s : String) : String :=
  String.ofList ('"' :: s.toList.flatMap escape ++ ['"'])

end BicepTemplates.Inspected
