import BicepTemplates.Digest.Hex
import BicepTemplates.Yaml.Character
import BicepTemplates.Yaml.Resolution

/-! # Scalars as they are written

A string is written in the plainest style that reads back as the same string: without quotes, else
between single quotes, else between double quotes. A string with line feeds is written as a block
of lines if it can be. No line is folded.
-/

namespace BicepTemplates.Yaml.Scalar

/-- Characters that need no escape. -/
def isWritable (c : Char) : Bool :=
  isPrintable c && !(['\t', '\r', '\u0085', '\ufeff'].contains c)

/-- Whether two characters of the given kinds ever follow each other. -/
def hasPair (first second : Char → Bool) : List Char → Bool
  | a :: b :: rest => (first a && second b) || hasPair first second (b :: rest)
  | _ => false

def isSpace (c : Char) : Bool := c == ' '

/-- Only between double quotes can a space stand before a line break. -/
def needsEscapes (s : List Char) : Bool :=
  !s.all isWritable || hasPair isSpace isBreak s

/-- Whether lines of a block show the string. -/
def fitsBlock (s : List Char) : Bool :=
  !needsEscapes s && s.getLast? != some ' '

/-- Whether single quotes around the string suffice. -/
def fitsSingle (s : List Char) : Bool :=
  !needsEscapes s && !hasPair isBreak isSpace s

/-- A word that ends a mapping key or starts a comment, wherever it stands. -/
def hasIndicator : List Char → Bool
  | ':' :: rest => endsWord rest || hasIndicator rest
  | c :: '#' :: rest => isGap c || hasIndicator ('#' :: rest)
  | _ :: rest => hasIndicator rest
  | [] => false

/-- A start that would be read as something else than a string. -/
def startsWithIndicator : List Char → Bool
  | '-' :: '-' :: '-' :: _ => true
  | '.' :: '.' :: '.' :: _ => true
  | '-' :: rest => endsWord rest
  | '?' :: rest => endsWord rest
  | s => startsWithAny
    ['#', ',', '[', ']', '{', '}', '&', '*', '!', '|', '>', '\'', '"', '%', '@', '`'] s

def fitsPlain (s : List Char) : Bool :=
  !needsEscapes s && !s.any isBreak && s.head? != some ' ' && s.getLast? != some ' ' &&
    !startsWithIndicator s && !hasIndicator s

/-- Whether the bare text would be read as a string. Numbers that start with a zero are not
trusted to be read so. -/
def meansString (s : String) : Bool :=
  match Resolution.plain? s with
  | some (.text _) => !Resolution.isZeroLed (Resolution.unsign s.toList)
  | _ => false

/-- Starts each line of text that does not start a line already. -/
def indented (margin : List Char) (atStart : Bool) : List Char → List Char
  | [] => []
  | c :: rest =>
    if isBreak c then c :: indented margin true rest
    else (if atStart then margin else []) ++ c :: indented margin false rest

def escape : Char → List Char
  | '"' => ['\\', '"']
  | '\\' => ['\\', '\\']
  | '\x00' => ['\\', '0']
  | '\x07' => ['\\', 'a']
  | '\x08' => ['\\', 'b']
  | '\t' => ['\\', 't']
  | '\n' => ['\\', 'n']
  | '\x0b' => ['\\', 'v']
  | '\x0c' => ['\\', 'f']
  | '\r' => ['\\', 'r']
  | '\x1b' => ['\\', 'e']
  | '\u0085' => ['\\', 'N']
  | '\u2028' => ['\\', 'L']
  | '\u2029' => ['\\', 'P']
  | c =>
    if isWritable c then [c]
    else if c.toNat < 0x100 then '\\' :: 'x' :: Digest.hex .upper 2 c.toNat
    else '\\' :: 'u' :: Digest.hex .upper 4 c.toNat

def double (s : List Char) : List Char :=
  '"' :: s.flatMap escape ++ ['"']

def single (margin s : List Char) : List Char :=
  let body := (indented margin false s).flatMap fun c => if c = '\'' then ['\'', '\''] else [c]
  let close := if s.getLast?.any isBreak then margin else []
  '\'' :: body ++ close ++ ['\'']

/-- The mark that tells how many line breaks end a block. -/
def endMark (s : List Char) : List Char :=
  match s.reverse with
  | [] => ['-']
  | [c] => if isBreak c then ['+'] else ['-']
  | c :: d :: _ => if !isBreak c then ['-'] else if isBreak d then ['+'] else []

/-- The mark for the depth of lines, where the first one does not show it. -/
def depthMark (s : List Char) : List Char :=
  if s.head?.any fun c => isSpace c || isBreak c then ['2'] else []

def block (margin s : List Char) : List Char :=
  '|' :: depthMark s ++ endMark s ++ '\n' :: indented margin true s

/-- The scalar with the line break behind it. -/
def line (margin : List Char) (s : String) : List Char :=
  let cs := s.toList
  if cs.contains '\n' then
    if !fitsBlock cs then double cs ++ ['\n']
    else if cs.getLast?.any isBreak then block margin cs
    else block margin cs ++ ['\n']
  else if fitsPlain cs && meansString s then cs ++ ['\n']
  else if fitsSingle cs then single margin cs ++ ['\n']
  else double cs ++ ['\n']

end BicepTemplates.Yaml.Scalar
