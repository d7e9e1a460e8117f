import BicepTemplates.Yaml.Character

/-! # Block scalars

A block scalar consists of the lines that follow its header and are indented deep enough. The
depth is given in the header, or it is that of the first line that is not empty. A literal scalar
keeps its line breaks, a folded one joins lines that do not start with white space. The header
also says what becomes of the line breaks at the end.
-/

namespace BicepTemplates.Yaml.BlockScalar

inductive Chomping where
  | strip
  | clip
  | keep
  deriving DecidableEq, Repr

structure Header where
  chomping : Chomping := .clip
  /-- How much deeper than the surrounding block the lines are, if that is given. -/
  increment : Option Nat := none

def chomping? : Char → Option Chomping
  | '+' => some .keep
  | '-' => some .strip
  | _ => none

/-- A digit, but not zero. -/
def increment? (c : Char) : Option Nat :=
  if c.isDigit ∧ c ≠ '0' then some (c.toNat - '0'.toNat) else none

/-- The two indicators, in any order. -/
def indicators : List Char → Header × List Char
  | c :: rest =>
    match chomping? c, increment? c, rest with
    | some chomping, _, d :: more =>
      match increment? d with
      | some n => (⟨chomping, some n⟩, more)
      | none => (⟨chomping, none⟩, rest)
    | some chomping, _, [] => (⟨chomping, none⟩, [])
    | none, some n, d :: more =>
      match chomping? d with
      | some chomping => (⟨chomping, some n⟩, more)
      | none => (⟨.clip, some n⟩, rest)
    | none, some n, [] => (⟨.clip, some n⟩, [])
    | none, none, _ => ({}, c :: rest)
  | [] => ({}, [])

/-- Skips white space and a comment up to the end of the line. -/
def skipToLineEnd? (s : List Char) : Option (List Char) :=
  let s := s.dropWhile isBlank
  let s := if s.head? = some '#' then s.dropWhile fun c => !isBreak c else s
  match lineBreak? s with
  | some (_, rest) => some rest
  | none => if s.isEmpty then some [] else none

structure Line where
  content : List Char
  /-- The line break in its normal form; the last line may have none. -/
  lineBreak : Option Char
  /-- Number of characters, line break included. -/
  size : Nat

/-- The lines of a text; the content of the current one is given last character first. -/
def linesFrom (content : List Char) : List Char → List Line
  | [] => [⟨content.reverse, none, content.length⟩]
  | '\r' :: '\n' :: rest =>
    ⟨content.reverse, some '\n', content.length + 2⟩ :: linesFrom [] rest
  | c :: rest =>
    if isBreak c then
      ⟨content.reverse, some (normalBreak c), content.length + 1⟩ :: linesFrom [] rest
    else linesFrom (c :: content) rest

/-- Leading spaces, but not more than the indentation. -/
def indentation (limit : Nat) (s : List Char) : Nat :=
  min limit (s.takeWhile (· == ' ')).length

/-- The depth of the first line that is not empty. Empty lines before it may make it deeper, and it
is at least the given one. A tab behind the spaces is not allowed. -/
def detect? (least : Nat) : List Line → Option Nat
  | [] => some least
  | line :: lines =>
    let spaces := (line.content.takeWhile (· == ' ')).length
    match line.content.drop spaces with
    | [] => if line.lineBreak.isSome then detect? (max least spaces) lines
      else some (max least spaces)
    | c :: _ => if c == '\t' then none else some (max least spaces)

/-- What was read so far, last characters first. -/
structure Progress where
  text : List Char := []
  /-- The break behind the last line of text. -/
  lineBreak : List Char := []
  /-- The breaks of the empty lines behind it. -/
  emptyLines : List Char := []
  /-- Whether the last line of text starts with white space. -/
  spaced : Bool := false
  size : Nat := 0

namespace Progress

def addEmpty (line : Line) (p : Progress) : Progress :=
  { p with emptyLines := line.lineBreak.toList ++ p.emptyLines, size := p.size + line.size }

/-- Adds a line of text, without its indentation. -/
def addText (isFolded : Bool) (content : List Char) (line : Line) (p : Progress) : Progress :=
  let spaced := (content.head?.map isBlank).getD false
  let joint :=
    if isFolded && p.lineBreak == ['\n'] && !p.spaced && !spaced then
      if p.emptyLines.isEmpty then [' '] else []
    else p.lineBreak
  { text := content.reverse ++ (p.emptyLines ++ (joint ++ p.text))
    lineBreak := line.lineBreak.toList
    spaced
    size := p.size + line.size }

def result (chomping : Chomping) (p : Progress) : List Char :=
  (match chomping with
    | .strip => p.text
    | .clip => p.lineBreak ++ p.text
    | .keep => p.emptyLines ++ (p.lineBreak ++ p.text)).reverse

end Progress

/-- Reads the lines that are indented deep enough. The indentation of the line that ends the scalar
is read as well. -/
def collect? (isFolded : Bool) (indent : Nat) (p : Progress) : List Line → Option Progress
  | [] => some p
  | line :: lines =>
    let spaces := indentation indent line.content
    match line.content.drop spaces, line.lineBreak with
    | [], some _ => collect? isFolded indent (p.addEmpty line) lines
    | [], none => some { p with size := p.size + spaces }
    | c :: more, _ =>
      if spaces < indent then
        if c == '\t' then none else some { p with size := p.size + spaces }
      else collect? isFolded indent (p.addText isFolded (c :: more) line) lines

/-- Reads a block scalar after its first indicator, given the column of the surrounding block. -/
def read? (isFolded : Bool) (blockIndent : Int) (s : List Char) :
    Option (List Char × List Char) := do
  let (header, s) := indicators s
  let s ← skipToLineEnd? s
  let lines := linesFrom [] s
  let indent ← match header.increment with
    | some n => some (max blockIndent 0 + n).toNat
    | none => detect? (max (blockIndent + 1) 1).toNat lines
  let p ← collect? isFolded indent {} lines
  return (p.result header.chomping, s.drop p.size)

end BicepTemplates.Yaml.BlockScalar
