/-! # Characters

The classes of characters that the notation distinguishes. Line breaks come in several forms; a
carriage return and a line feed together are one break.
-/

namespace BicepTemplates.Yaml

/-- Control characters, apart from tabs and line breaks, cannot stand in a text. -/
def isPrintable (c : Char) : Bool :=
  let n := c.toNat
  c == '\t' || c == '\n' || c == '\r' || (0x20 ≤ n && n ≤ 0x7E) || n == 0x85 ||
    (0xA0 ≤ n && n ≤ 0xD7FF) || (0xE000 ≤ n && n ≤ 0xFFFD) || 0x10000 ≤ n

def isBreak (c : Char) : Bool :=
  c == '\n' || c == '\r' || c == '\u0085' || c == '\u2028' || c == '\u2029'

/-- White space within a line. -/
def isBlank (c : Char) : Bool := c == ' ' || c == '\t'

def isGap (c : Char) : Bool := isBlank c || isBreak c

/-- What names of anchors, directives and tag handles consist of. -/
def isNameChar (c : Char) : Bool := c.isAlphanum || c == '_' || c == '-'

def isHexDigit (c : Char) : Bool :=
  c.isDigit || ('a' ≤ c && c ≤ 'f') || ('A' ≤ c && c ≤ 'F')

/-- Whether a word could end here: at white space or at the end. -/
def endsWord : List Char → Bool
  | [] => true
  | c :: _ => isGap c

def endsLine : List Char → Bool
  | [] => true
  | c :: _ => isBreak c

/-- Whether the text goes on with one of the given characters. -/
def startsWithAny (cs : List Char) : List Char → Bool
  | [] => false
  | c :: _ => cs.contains c

/-- The marks between documents, given the text at the start of a line. -/
def isDocumentMarker : List Char → Bool
  | '-' :: '-' :: '-' :: rest => endsWord rest
  | '.' :: '.' :: '.' :: rest => endsWord rest
  | _ => false

/-- Only the two separators of Unicode stay as they are. -/
def normalBreak (c : Char) : Char :=
  if c = '\u2028' ∨ c = '\u2029' then c else '\n'

/-- The line break at the start of a text, in its normal form. -/
def lineBreak? : List Char → Option (Char × List Char)
  | '\r' :: '\n' :: rest => some ('\n', rest)
  | c :: rest => if isBreak c then some (normalBreak c, rest) else none
  | [] => none

/-- All line breaks of a text, in their normal form. -/
def breaksOf : List Char → List Char
  | '\r' :: '\n' :: rest => '\n' :: breaksOf rest
  | c :: rest => if isBreak c then normalBreak c :: breaksOf rest else breaksOf rest
  | [] => []

/-- A gap between words of a scalar. Within a line it stays as it is; a single line break becomes
a space, and of several the first is dropped. -/
def foldGap (gap : List Char) : List Char :=
  match breaksOf gap with
  | [] => gap
  | ['\n'] => [' ']
  | '\n' :: more => more
  | breaks => breaks

/-- A place in a text, counted in characters from zero. -/
structure Position where
  index : Nat := 0
  line : Nat := 0
  column : Nat := 0
  deriving DecidableEq, Repr

/-- The place behind the given characters. -/
def Position.after (p : Position) : List Char → Position
  | '\r' :: '\n' :: rest => after ⟨p.index + 2, p.line + 1, 0⟩ rest
  | c :: rest =>
    after (if isBreak c then ⟨p.index + 1, p.line + 1, 0⟩
      else ⟨p.index + 1, p.line, p.column + 1⟩) rest
  | [] => p

end BicepTemplates.Yaml
