import BicepTemplates.Digest.Hex

/-! # JSON strings

Quotes, backslashes and control characters are escaped, the usual ones by a letter and the others
by their code points. All other characters stand for themselves.
-/

namespace BicepTemplates.Json

def escape : Char → List Char
  | '"' => ['\\', '"']
  | '\\' => ['\\', '\\']
  | '\x08' => ['\\', 'b']
  | '\x0c' => ['\\', 'f']
  | '\n' => ['\\', 'n']
  | '\r' => ['\\', 'r']
  | '\t' => ['\\', 't']
  | c => if c.toNat < 0x20 then '\\' :: 'u' :: Digest.hex .lower 4 c.toNat else [c]

def string (s : String) : String :=
  String.ofList ('"' :: s.toList.flatMap escape ++ ['"'])

end BicepTemplates.Json
