import BicepTemplates.Yaml.Token
import BicepTemplates.Yaml.Token.Block
import BicepTemplates.Yaml.Token.Plain
import BicepTemplates.Yaml.Token.Quoted
import BicepTemplates.Yaml.Token.Tag

/-! # From text to tokens

Tokens are read from left to right. Outside brackets, the column of a token decides which blocks
end before it and which begin. Whatever can be a key is remembered until a colon follows it on the
same line, at most 1024 characters on, and then turns out to be one. At most one such candidate
is remembered for each level of brackets.
-/

namespace BicepTemplates.Yaml

/-- Something that is a key if a colon follows. -/
structure KeyCandidate where
  position : Position
  /-- Number of tokens before it. -/
  number : Nat
  /-- At this place there can be nothing but a key. -/
  isRequired : Bool

namespace KeyCandidate

def maxLength : Nat := 1024

/-- Whether the colon would come too late. -/
def isStale (here : Position) (k : KeyCandidate) : Bool :=
  k.position.line < here.line || k.position.index + maxLength < here.index

end KeyCandidate

structure Lexer where
  rest : List Char
  position : Position := {}
  /-- The tokens so far, last first. -/
  tokens : List Token := []
  count : Nat := 0
  /-- The columns of the open blocks, innermost first. -/
  indents : List Nat := []
  /-- The candidate on this level of brackets. -/
  candidate : Option KeyCandidate := none
  /-- Those on the levels around it, innermost first; one for each open bracket. -/
  outer : List (Option KeyCandidate) := []
  /-- Whether a key may start here. -/
  keyAllowed : Bool := true

/-- A step that goes forward in the text. It fails if the text is not well-formed. -/
abbrev Lexing := StateT Lexer Option

namespace Lexer

def inFlow (l : Lexer) : Bool := !l.outer.isEmpty

/-- The column of the innermost block, or a column to the left of all. -/
def indent (l : Lexer) : Int :=
  match l.indents with
  | [] => -1
  | column :: _ => column

/-- Goes on with a later part of the text. -/
def moveTo (rest : List Char) : Lexing Unit :=
  modify fun l =>
    let passed := l.rest.take (l.rest.length - rest.length)
    { l with rest, position := l.position.after passed }

def skip (count : Nat) : Lexing Unit := do
  moveTo ((← get).rest.drop count)

def emit (t : Token) : Lexing Unit :=
  modify fun l => { l with tokens := t :: l.tokens, count := l.count + 1 }

/-- Puts a token in front of the ones that came after the given number of tokens. -/
def insert (number : Nat) (t : Token) : Lexing Unit :=
  modify fun l =>
    let later := l.count - number
    { l with
      tokens := l.tokens.take later ++ t :: l.tokens.drop later
      count := l.count + 1 }

def allowKey (allowed : Bool) : Lexing Unit :=
  modify fun l => { l with keyAllowed := allowed }

/-! ## Candidates -/

/-- Gives up the candidate on this level. -/
def dropCandidate : Lexing Unit := do
  let l ← get
  if l.candidate.any (·.isRequired) then failure
  set { l with candidate := none }

/-- Gives up all candidates that lie too far back. -/
def dropStale : Lexing Unit := do
  let l ← get
  let stale (k : Option KeyCandidate) : Bool := k.any (·.isStale l.position)
  if (l.candidate :: l.outer).any fun k => stale k && k.any (·.isRequired) then failure
  let keep (k : Option KeyCandidate) : Option KeyCandidate := if stale k then none else k
  set { l with candidate := keep l.candidate, outer := l.outer.map keep }

/-- Remembers what starts here. -/
def saveCandidate : Lexing Unit := do
  let l ← get
  if l.keyAllowed then
    dropCandidate
    let isRequired := !l.inFlow && l.indent == (l.position.column : Int)
    modify fun l => { l with candidate := some ⟨l.position, l.count, isRequired⟩ }

/-! ## Blocks -/

/-- Opens a block unless one is open at this column already. -/
def openBlock (column number : Nat) (t : Token) : Lexing Unit := do
  let l ← get
  if !l.inFlow && l.indent < (column : Int) then
    set { l with indents := column :: l.indents }
    insert number t

/-- Number of innermost blocks that lie to the right of the column. -/
def deeper (column : Int) (indents : List Nat) : Nat :=
  (indents.takeWhile fun (i : Nat) => column < (i : Int)).length

/-- Closes the blocks to the right of the column. -/
def closeBlocks (column : Int) : Lexing Unit :=
  modify fun l =>
    if l.inFlow then l
    else
      let closed := deeper column l.indents
      { l with
        tokens := List.replicate closed .blockEnd ++ l.tokens
        count := l.count + closed
        indents := l.indents.drop closed }

/-! ## Gaps between tokens -/

/-- The text without the blanks and the comment in front of it. -/
def dropLineGap (tabs : Bool) (s : List Char) : List Char :=
  let s := s.dropWhile fun c => c == ' ' || (tabs && c == '\t')
  if s.head? = some '#' then s.dropWhile fun c => !isBreak c else s

/-- Skips to the next token. Outside brackets a tab cannot stand where a key may start, and a key
may start on a new line. -/
def skipGap : Nat → Lexing Unit
  | 0 => failure
  | fuel + 1 => do
    let l ← get
    if l.position.index = 0 ∧ l.rest.head? = some '\ufeff' then skip 1
    let l ← get
    moveTo (dropLineGap (l.inFlow || !l.keyAllowed) l.rest)
    match lineBreak? (← get).rest with
    | none => pure ()
    | some (_, rest) => do
      moveTo rest
      if !(← get).inFlow then allowKey true
      skipGap fuel

/-! ## Tokens -/

/-- A token that stands at the margin: it ends all blocks. -/
def startAtMargin : Lexing Unit := do
  closeBlocks (-1)
  dropCandidate
  allowKey false

def lexDirective : Lexing Unit := do
  startAtMargin
  skip 1
  let (directive, rest) ← Directive.read? (← get).rest
  emit (match directive with
    | .version major minor => .version major minor
    | .tagHandle handle expansion => .tagHandle handle expansion)
  moveTo (dropLineGap true rest)
  match lineBreak? (← get).rest with
  | some (_, rest) => moveTo rest
  | none => if !(← get).rest.isEmpty then failure

def lexDocumentMarker (t : Token) : Lexing Unit := do
  startAtMargin
  skip 3
  emit t

def lexFlowStart (t : Token) : Lexing Unit := do
  saveCandidate
  modify fun l => { l with candidate := none, outer := l.candidate :: l.outer }
  allowKey true
  skip 1
  emit t

def lexFlowEnd (t : Token) : Lexing Unit := do
  dropCandidate
  modify fun l => match l.outer with
    | k :: outer => { l with candidate := k, outer }
    | [] => l
  allowKey false
  skip 1
  emit t

def lexFlowEntry : Lexing Unit := do
  dropCandidate
  allowKey true
  skip 1
  emit .flowEntry

/-- Outside brackets, an indicator needs a place where a key may start, and opens a block. -/
def openAtIndicator (block : Token) : Lexing Unit := do
  let l ← get
  if !l.inFlow then
    if !l.keyAllowed then failure
    openBlock l.position.column l.count block

def lexBlockEntry : Lexing Unit := do
  openAtIndicator .blockSequenceStart
  dropCandidate
  allowKey true
  skip 1
  emit .blockEntry

def lexKey : Lexing Unit := do
  openAtIndicator .blockMappingStart
  dropCandidate
  allowKey (!(← get).inFlow)
  skip 1
  emit .key

/-- A colon makes the candidate a key. -/
def lexValue : Lexing Unit := do
  let l ← get
  match l.candidate with
  | some k =>
    insert k.number .key
    openBlock k.position.column k.number .blockMappingStart
    modify fun l => { l with candidate := none }
    allowKey false
  | none =>
    openAtIndicator .blockMappingStart
    allowKey (!(← get).inFlow)
  skip 1
  emit .value

def lexAnchor (make : String → Token) : Lexing Unit := do
  saveCandidate
  allowKey false
  skip 1
  let (name, rest) ← Anchor.read? (← get).rest
  moveTo rest
  emit (make name)

def lexTag : Lexing Unit := do
  saveCandidate
  allowKey false
  skip 1
  let l ← get
  let ((handle, suffix), rest) ← Tag.read? l.inFlow l.rest
  moveTo rest
  emit (.tag handle suffix)

def lexBlockScalar (isFolded : Bool) : Lexing Unit := do
  dropCandidate
  allowKey true
  skip 1
  let l ← get
  let (text, rest) ← BlockScalar.read? isFolded l.indent l.rest
  moveTo rest
  emit (.scalar (if isFolded then .folded else .literal) (String.ofList text))

def lexQuoted (read : List Char → Option (List Char × List Char)) : Lexing Unit := do
  saveCandidate
  allowKey false
  skip 1
  let (text, rest) ← read (← get).rest
  moveTo rest
  emit (.scalar .quoted (String.ofList text))

def lexPlain : Lexing Unit := do
  saveCandidate
  allowKey false
  let l ← get
  let o ← PlainScalar.read ⟨l.inFlow, l.indent + 1⟩ l.position.column [] [] l.rest
  moveTo o.rest
  if o.endedLine then allowKey true
  emit (.scalar .plain (String.ofList o.text))

/-- Characters that cannot start a plain scalar. -/
def indicators : List Char :=
  ['-', '?', ':', ',', '[', ']', '\x7b', '\x7d', '#', '&', '*', '!', '|', '>', '\'', '"', '%',
    '@', '`']

/-- A dash, or outside brackets a question mark or a colon, starts a plain scalar if the word goes
on. -/
def startsPlain (inFlow : Bool) (c : Char) (rest : List Char) : Bool :=
  (!isGap c && !indicators.contains c) || (c == '-' && !startsWithAny [' ', '\t'] rest) ||
    (!inFlow && (c == '?' || c == ':') && !endsWord rest)

/-- The token that starts with the given character. -/
def lexFrom (c : Char) (rest : List Char) : Lexing Unit := do
  let l ← get
  let atMargin := l.position.column == 0
  if atMargin && c == '%' then lexDirective
  else if atMargin && isDocumentMarker (c :: rest) then
    lexDocumentMarker (if c == '-' then .documentStart else .documentEnd)
  else if c == '[' then lexFlowStart .flowSequenceStart
  else if c == '\x7b' then lexFlowStart .flowMappingStart
  else if c == ']' then lexFlowEnd .flowSequenceEnd
  else if c == '\x7d' then lexFlowEnd .flowMappingEnd
  else if c == ',' then lexFlowEntry
  else if c == '-' && endsWord rest then lexBlockEntry
  else if c == '?' && (l.inFlow || endsWord rest) then lexKey
  else if c == ':' && (l.inFlow || endsWord rest) then lexValue
  else if c == '*' then lexAnchor .aliasOf
  else if c == '&' then lexAnchor .anchor
  else if c == '!' then lexTag
  else if c == '|' && !l.inFlow then lexBlockScalar false
  else if c == '>' && !l.inFlow then lexBlockScalar true
  else if c == '\'' then lexQuoted (Quoted.readSingle {})
  else if c == '"' then lexQuoted (Quoted.readDouble {})
  else if startsPlain l.inFlow c rest then lexPlain
  else failure

def lexEnd : Lexing Unit := do
  startAtMargin
  emit .streamEnd

/-- Reads tokens to the end. Each takes at least one character, so the fuel lasts. -/
def lexAll : Nat → Lexing Unit
  | 0 => failure
  | fuel + 1 => do
    skipGap ((← get).rest.length + 1)
    dropStale
    closeBlocks (← get).position.column
    match (← get).rest with
    | [] => lexEnd
    | c :: rest => do
      lexFrom c rest
      lexAll fuel

end Lexer

/-- The tokens of a text, if it is well-formed. -/
def Token.ofText? (s : List Char) : Option (List Token) :=
  if s.all isPrintable then
    match (Lexer.lexAll (s.length + 1)).run { rest := s } with
    | some (_, l) => some l.tokens.reverse
    | none => none
  else none

end BicepTemplates.Yaml
