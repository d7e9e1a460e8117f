import BicepTemplates.Yaml.Character

/-! # Quoted scalars

Between single quotes, a quote is written twice and nothing else is special. Between double quotes
a backslash starts an escape; before a line break it joins the lines without a space. Gaps with
line breaks are folded. A document marker at the start of a line ends the document too early.
-/

namespace BicepTemplates.Yaml.Quoted

/-- The escapes that stand for one character. -/
def simpleEscape? : Char → Option Char
  | '0' => some '\x00'
  | 'a' => some '\x07'
  | 'b' => some '\x08'
  | 't' => some '\t'
  | '\t' => some '\t'
  | 'n' => some '\n'
  | 'v' => some '\x0b'
  | 'f' => some '\x0c'
  | 'r' => some '\r'
  | 'e' => some '\x1b'
  | ' ' => some ' '
  | '"' => some '"'
  | '/' => some '/'
  | '\\' => some '\\'
  | 'N' => some '\u0085'
  | '_' => some '\u00a0'
  | 'L' => some '\u2028'
  | 'P' => some '\u2029'
  | _ => none

/-- How many digits of a code point follow. -/
def codeLength? : Char → Option Nat
  | 'x' => some 2
  | 'u' => some 4
  | 'U' => some 8
  | _ => none

def hexValue (c : Char) : Nat :=
  if c.isDigit then c.toNat - '0'.toNat
  else if c ≤ 'F' then c.toNat - 'A'.toNat + 10
  else c.toNat - 'a'.toNat + 10

/-- The character with the given code point, written with exactly so many digits. -/
def codePoint? (count : Nat) (digits : List Char) : Option Char :=
  if digits.length = count ∧ digits.all isHexDigit then
    let n := digits.foldl (fun n c => n * 16 + hexValue c) 0
    if n.isValidChar then some (Char.ofNat n) else none
  else none

/-- What was read so far, last characters first. The gap is what follows the last word; it may
start with an escaped line break. -/
structure Progress where
  text : List Char := []
  gap : List Char := []
  escaped : Bool := false

namespace Progress

/-- The text with the gap folded into it. -/
def folded (p : Progress) : List Char :=
  let gap := p.gap.reverse
  (if p.escaped then (breaksOf gap).drop 1 else foldGap gap).reverse ++ p.text

/-- The next character of a word. -/
def push (c : Char) (p : Progress) : Progress := { text := c :: p.folded }

def pushGap (c : Char) (p : Progress) : Progress := { p with gap := c :: p.gap }

def startsLine (p : Progress) : Bool :=
  match p.gap with
  | c :: _ => isBreak c
  | [] => false

def result (p : Progress) : List Char := p.folded.reverse

end Progress

/-- Reads up to the closing single quote. -/
def readSingle (p : Progress) : List Char → Option (List Char × List Char)
  | [] => none
  | c :: rest =>
    if isGap c then readSingle (p.pushGap c) rest
    else if p.startsLine && isDocumentMarker (c :: rest) then none
    else if c = '\'' then
      match rest with
      | '\'' :: rest => readSingle (p.push '\'') rest
      | rest => some (p.result, rest)
    else readSingle (p.push c) rest

/-- Reads up to the closing double quote. -/
def readDouble (p : Progress) (s : List Char) : Option (List Char × List Char) :=
  match s with
  | [] => none
  | c :: rest =>
    if isGap c then readDouble (p.pushGap c) rest
    else if p.startsLine && isDocumentMarker (c :: rest) then none
    else if c = '"' then some (p.result, rest)
    else if c = '\\' then
      match rest with
      | [] => none
      | e :: rest =>
        if isBreak e then readDouble { text := p.folded, gap := [e], escaped := true } rest
        else match simpleEscape? e, codeLength? e with
          | some c, _ => readDouble (p.push c) rest
          | none, some count =>
            match codePoint? count (rest.take count) with
            | some c => readDouble (p.push c) (rest.drop count)
            | none => none
          | none, none => none
    else readDouble (p.push c) rest
termination_by s.length
decreasing_by all_goals simp_wf <;> omega

end BicepTemplates.Yaml.Quoted
