/-! # Identifiers

Two classes of words. An identifier can stand bare in an expression and as a property key. A
symbolic name is any non-empty word over the same characters, so it may also start with a digit.
-/

namespace BicepTemplates

/-- ASCII letters, digits and the underscore. -/
def isWordChar (c : Char) : Bool :=
  c.isAlphanum || c == '_'

/-- A word that does not start with a digit. -/
def isIdentifierWord : List Char → Bool
  | [] => false
  | c :: rest => (c.isAlpha || c == '_') && rest.all isWordChar

def isIdentifier (s : String) : Bool :=
  isIdentifierWord s.toList

/-- A non-empty word. -/
def isName (s : String) : Bool :=
  !s.toList.isEmpty && s.toList.all isWordChar

end BicepTemplates
