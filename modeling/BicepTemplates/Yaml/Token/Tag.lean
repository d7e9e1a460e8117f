import BicepTemplates.Yaml.Character
import BicepTemplates.Yaml.Token.Quoted

/-! # Tags, anchors and directives

A tag is a handle with a suffix, or a whole URI in angle brackets. Characters of a suffix may be
written as octets after percent signs. Directives stand on lines of their own before a document.
-/

namespace BicepTemplates.Yaml

namespace Uri

def marks : List Char :=
  [';', '/', '?', ':', '@', '&', '=', '+', '$', '.', '%', '!', '~', '*', '\'', '(', ')']

/-- Commas and brackets are part of a URI only where nothing else could end it. -/
def isUriChar (isWhole : Bool) (c : Char) : Bool :=
  isNameChar c || marks.contains c || (isWhole && [',', '[', ']'].contains c)

/-- The octets a text stands for. All other characters of a URI are ASCII. -/
def octets? : List Char → Option (List UInt8)
  | [] => some []
  | '%' :: a :: b :: rest =>
    if isHexDigit a && isHexDigit b then
      (octets? rest).map ((Quoted.hexValue a * 16 + Quoted.hexValue b).toUInt8 :: ·)
    else none
  | '%' :: _ => none
  | c :: rest => (octets? rest).map (c.toNat.toUInt8 :: ·)

def decode? (s : List Char) : Option String :=
  (octets? s).bind fun bytes => String.fromUTF8? ⟨bytes.toArray⟩

/-- The URI at the start of a text. -/
def read? (isWhole : Bool) (s : List Char) : Option (String × List Char) :=
  (decode? (s.takeWhile (isUriChar isWhole))).map fun uri =>
    (uri, s.dropWhile (isUriChar isWhole))

end Uri

namespace Tag

/-- The parts of a tag, after its exclamation mark. A lone mark is a tag of its own. -/
def parts? : List Char → Option ((String × String) × List Char)
  | '<' :: rest => do
    let (uri, rest) ← Uri.read? true rest
    match rest with
    | '>' :: rest => if uri.isEmpty then none else some (("", uri), rest)
    | _ => none
  | s => do
    let name := s.takeWhile isNameChar
    match s.dropWhile isNameChar with
    | '!' :: rest =>
      let (suffix, rest) ← Uri.read? false rest
      if suffix.isEmpty then none
      else some ((String.ofList ('!' :: name ++ ['!']), suffix), rest)
    | _ =>
      let (suffix, rest) ← Uri.read? false s
      some (if suffix.isEmpty then ("", "!") else ("!", suffix), rest)

/-- A tag is followed by white space, or within brackets by a comma. -/
def read? (inFlow : Bool) (s : List Char) : Option ((String × String) × List Char) := do
  let (parts, rest) ← parts? s
  if endsWord rest || (inFlow && startsWithAny [','] rest) then some (parts, rest) else none

end Tag

namespace Anchor

/-- The name of an anchor or an alias, after its indicator. -/
def read? (s : List Char) : Option (String × List Char) :=
  let name := s.takeWhile isNameChar
  let rest := s.dropWhile isNameChar
  if !name.isEmpty &&
      (endsWord rest || startsWithAny ['?', ':', ',', ']', '\x7d', '%', '@', '`'] rest) then
    some (String.ofList name, rest)
  else none

end Anchor

inductive Directive where
  | version (major minor : Nat)
  | tagHandle (handle expansion : String)

namespace Directive

/-- One to nine digits. -/
def number? (s : List Char) : Option (Nat × List Char) :=
  let digits := s.takeWhile Char.isDigit
  if digits.isEmpty ∨ 9 < digits.length then none
  else some (digits.foldl (fun n c => n * 10 + (c.toNat - '0'.toNat)) 0, s.dropWhile Char.isDigit)

def version? (s : List Char) : Option (Directive × List Char) := do
  let (major, s) ← number? (s.dropWhile isBlank)
  match s with
  | '.' :: s =>
    let (minor, s) ← number? s
    return (.version major minor, s)
  | _ => none

/-- A handle is one exclamation mark, or a name between two. -/
def handle? : List Char → Option (String × List Char)
  | '!' :: s =>
    let name := s.takeWhile isNameChar
    match s.dropWhile isNameChar with
    | '!' :: rest => some (String.ofList ('!' :: name ++ ['!']), rest)
    | rest => if name.isEmpty then some ("!", rest) else none
  | _ => none

def tagHandle? (s : List Char) : Option (Directive × List Char) := do
  let (handle, s) ← handle? (s.dropWhile isBlank)
  if !startsWithAny [' ', '\t'] s then none
  let (expansion, s) ← Uri.read? true (s.dropWhile isBlank)
  if expansion.isEmpty || !endsWord s then none
  return (.tagHandle handle expansion, s)

/-- A directive after its percent sign, without the end of the line. -/
def read? (s : List Char) : Option (Directive × List Char) :=
  let name := s.takeWhile isNameChar
  let rest := s.dropWhile isNameChar
  if !endsWord rest then none
  else match String.ofList name with
    | "YAML" => version? rest
    | "TAG" => tagHandle? rest
    | _ => none

end Directive

end BicepTemplates.Yaml
