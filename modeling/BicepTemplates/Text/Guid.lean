/-! # GUIDs

A GUID is written as 32 hexadecimal digits, or in groups of 8, 4, 4, 4 and 12 digits with hyphens
between them. The grouped form may stand in braces or behind a URN scheme.
-/

namespace BicepTemplates.Guid

def isHexDigit (c : Char) : Bool :=
  c.isDigit || ('a' ≤ c && c ≤ 'f') || ('A' ≤ c && c ≤ 'F')

/-- Groups of digits of the given sizes, with hyphens between them and nothing after them. -/
def isGrouped : List Nat → List Char → Bool
  | [], s => s.isEmpty
  | [size], s => s.length == size && s.all isHexDigit
  | size :: sizes, s =>
    (s.take size).length == size && (s.take size).all isHexDigit &&
      match s.drop size with
      | '-' :: rest => isGrouped sizes rest
      | _ => false

def isHyphenated (s : List Char) : Bool :=
  isGrouped [8, 4, 4, 4, 12] s

def isBraced : List Char → Bool
  | '{' :: rest => rest.getLast? == some '}' && isHyphenated rest.dropLast
  | _ => false

def isUrn (s : List Char) : Bool :=
  (s.take 9 == ['u', 'r', 'n', ':', 'u', 'u', 'i', 'd', ':'] ||
    s.take 9 == ['U', 'R', 'N', ':', 'U', 'U', 'I', 'D', ':']) && isHyphenated (s.drop 9)

def isGuid (text : String) : Bool :=
  let s := text.toList
  isGrouped [32] s || isHyphenated s || isBraced s || isUrn s

end BicepTemplates.Guid
