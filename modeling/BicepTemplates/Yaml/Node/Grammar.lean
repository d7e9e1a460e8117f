import BicepTemplates.Yaml.Node

/-! # From tokens to a node

Each function reads one construct from the front of the tokens and gives back the tokens behind
it. An entry, a key or a value for which nothing is written is an empty node. Every node but an
empty one takes a token, so that fuel proportional to the number of tokens is enough.
-/

namespace BicepTemplates.Yaml.Node

/-- What handles of tags stand for. -/
abbrev Handles := List (String × String)

def defaultHandles : Handles := [("!", "!"), ("!!", "tag:yaml.org,2002:")]

/-- The whole tag. An empty handle stands for itself, any other one has to be known. -/
def resolveTag? (handles : Handles) (handle suffix : String) : Option String :=
  if handle.isEmpty then some suffix
  else (handles.find? (·.1 == handle)).map fun (_, expansion) => expansion ++ suffix

/-- Anchor and tag in front of a node, in any order. -/
def properties : List Token → Option String × Option (String × String) × List Token
  | .anchor a :: .tag h s :: rest => (some a, some (h, s), rest)
  | .tag h s :: .anchor a :: rest => (some a, some (h, s), rest)
  | .anchor a :: rest => (some a, none, rest)
  | .tag h s :: rest => (none, some (h, s), rest)
  | rest => (none, none, rest)

/-- Whether the next token is one of the given ones. -/
def nextIs (tokens : List Token) : List Token → Bool
  | [] => false
  | t :: _ => tokens.contains t

/-- In a sequence within brackets, the token behind an empty key is passed over whatever it is. -/
def skipOne (ts : List Token) : List Token := ts.drop 1

/-- After the first part of a collection in brackets, the others follow behind commas. -/
def separated? (isFirst : Bool) : List Token → Option (List Token)
  | .flowEntry :: ts => if isFirst then some (.flowEntry :: ts) else some ts
  | ts => if isFirst then some ts else none

/-- Where a node stands: whether block collections can start there, and whether a block sequence
needs no deeper indentation. -/
inductive Place where
  | flow
  | block
  | blockEntry
  deriving DecidableEq

mutual

def node? (handles : Handles) (place : Place) :
    Nat → List Token → Option (Node String × List Token)
  | 0, _ => none
  | _ + 1, .aliasOf name :: ts => some (.aliasOf name, ts)
  | fuel + 1, ts => do
    let (anchor, tag, ts) := properties ts
    let tag ← match tag with
      | some (handle, suffix) => some <$> resolveTag? handles handle suffix
      | none => some none
    match ts with
    | .scalar style text :: ts => return (.scalar anchor tag style text, ts)
    | .flowSequenceStart :: ts =>
      let (items, ts) ← flowItems? handles true fuel ts
      return (.sequence anchor tag items, ts)
    | .flowMappingStart :: ts =>
      let (entries, ts) ← flowEntries? handles true fuel ts
      return (.mapping anchor tag entries, ts)
    | ts =>
      if place = .blockEntry ∧ nextIs [.blockEntry] ts then
        let (items, ts) ← indentlessItems? handles fuel ts
        return (.sequence anchor tag items, ts)
      else if place ≠ .flow ∧ nextIs [.blockSequenceStart] ts then
        let (items, ts) ← blockItems? handles fuel (ts.drop 1)
        return (.sequence anchor tag items, ts)
      else if place ≠ .flow ∧ nextIs [.blockMappingStart] ts then
        let (entries, ts) ← blockEntries? handles fuel (ts.drop 1)
        return (.mapping anchor tag entries, ts)
      else if anchor.isSome || tag.isSome then return (.scalar anchor tag .plain "", ts)
      else none

/-- A node, or an empty one in front of the given tokens. -/
def nodeUnless? (handles : Handles) (place : Place) (ends : List Token) :
    Nat → List Token → Option (Node String × List Token)
  | 0, _ => none
  | fuel + 1, ts => if nextIs ends ts then some (empty, ts) else node? handles place fuel ts

def blockItems? (handles : Handles) : Nat → List Token → Option (List (Node String) × List Token)
  | 0, _ => none
  | fuel + 1, .blockEntry :: ts => do
    let (item, ts) ← nodeUnless? handles .block [.blockEntry, .blockEnd] fuel ts
    let (items, ts) ← blockItems? handles fuel ts
    return (item :: items, ts)
  | _ + 1, .blockEnd :: ts => some ([], ts)
  | _ + 1, _ => none

def indentlessItems? (handles : Handles) :
    Nat → List Token → Option (List (Node String) × List Token)
  | 0, _ => none
  | fuel + 1, .blockEntry :: ts => do
    let (item, ts) ← nodeUnless? handles .block [.blockEntry, .key, .value, .blockEnd] fuel ts
    let (items, ts) ← indentlessItems? handles fuel ts
    return (item :: items, ts)
  | _ + 1, ts => some ([], ts)

def blockEntries? (handles : Handles) :
    Nat → List Token → Option (List (Node String × Node String) × List Token)
  | 0, _ => none
  | fuel + 1, .key :: ts => do
    let ends := [.key, .value, .blockEnd]
    let (key, ts) ← nodeUnless? handles .blockEntry ends fuel ts
    let (value, ts) ← value? handles .blockEntry ends fuel ts
    let (entries, ts) ← blockEntries? handles fuel ts
    return ((key, value) :: entries, ts)
  | _ + 1, .blockEnd :: ts => some ([], ts)
  | _ + 1, _ => none

/-- The value behind a key, which is empty without a colon. -/
def value? (handles : Handles) (place : Place) (ends : List Token) :
    Nat → List Token → Option (Node String × List Token)
  | 0, _ => none
  | fuel + 1, .value :: ts => nodeUnless? handles place ends fuel ts
  | _ + 1, ts => some (empty, ts)

/-- Items up to the closing bracket. An item may also be a single entry of a mapping. -/
def flowItems? (handles : Handles) (isFirst : Bool) :
    Nat → List Token → Option (List (Node String) × List Token)
  | 0, _ => none
  | _ + 1, .flowSequenceEnd :: ts => some ([], ts)
  | fuel + 1, ts => do
    match ← separated? isFirst ts with
    | .flowSequenceEnd :: ts => return ([], ts)
    | .key :: ts =>
      let (key, ts) ← if nextIs [.value, .flowEntry, .flowSequenceEnd] ts then
          some (empty, skipOne ts)
        else node? handles .flow fuel ts
      let (value, ts) ← value? handles .flow [.flowEntry, .flowSequenceEnd] fuel ts
      let (items, ts) ← flowItems? handles false fuel ts
      return (.mapping none none [(key, value)] :: items, ts)
    | ts =>
      let (item, ts) ← node? handles .flow fuel ts
      let (items, ts) ← flowItems? handles false fuel ts
      return (item :: items, ts)

/-- Entries up to the closing brace. A key alone has an empty value. -/
def flowEntries? (handles : Handles) (isFirst : Bool) :
    Nat → List Token → Option (List (Node String × Node String) × List Token)
  | 0, _ => none
  | _ + 1, .flowMappingEnd :: ts => some ([], ts)
  | fuel + 1, ts => do
    match ← separated? isFirst ts with
    | .flowMappingEnd :: ts => return ([], ts)
    | .key :: ts =>
      let ends := [.flowEntry, .flowMappingEnd]
      let (key, ts) ← nodeUnless? handles .flow (.value :: ends) fuel ts
      let (value, ts) ← value? handles .flow ends fuel ts
      let (entries, ts) ← flowEntries? handles false fuel ts
      return ((key, value) :: entries, ts)
    | ts =>
      let (key, ts) ← node? handles .flow fuel ts
      let (entries, ts) ← flowEntries? handles false fuel ts
      return ((key, empty) :: entries, ts)

end

/-- What the directives in front of a document declare. -/
structure Declared where
  hasVersion : Bool := false
  handles : Handles := []

/-- Directives up to the first other token. None may come twice, and only versions 1.1 and 1.2 are
known. -/
def directives? (d : Declared) : List Token → Option (Declared × List Token)
  | .version major minor :: ts =>
    if d.hasVersion || major != 1 || !(minor == 1 || minor == 2) then none
    else directives? { d with hasVersion := true } ts
  | .tagHandle handle expansion :: ts =>
    if d.handles.any (·.1 == handle) then none
    else directives? { d with handles := d.handles ++ [(handle, expansion)] } ts
  | ts => some (d, ts)

def isDirective : Token → Bool
  | .version .. => true
  | .tagHandle .. => true
  | _ => false

/-- Whether a document begins without a marker. -/
def startsBare : List Token → Bool
  | [] => false
  | t :: _ => !isDirective t && t != .documentStart && t != .streamEnd

/-- Whether no content follows the marker of a document. -/
def isContentless : List Token → Bool
  | [] => true
  | t :: _ => isDirective t || [.documentStart, .documentEnd, .streamEnd].contains t

/-- The only document of a stream. The outer option tells failure, the inner one that there is no
document at all. -/
def ofTokens? (ts : List Token) : Option (Option (Node String)) := do
  let fuel := 4 * ts.length + 4
  let (root, ts) ←
    if ts == [.streamEnd] then return none
    else if startsBare ts then node? defaultHandles .block fuel ts
    else do
      let (d, ts) ← directives? {} ts
      match ts with
      | .documentStart :: ts =>
        if isContentless ts then some (empty, ts)
        else node? (d.handles ++ defaultHandles) .block fuel ts
      | _ => none
  if ts.dropWhile (· == .documentEnd) == [.streamEnd] then return some root else none

end BicepTemplates.Yaml.Node
