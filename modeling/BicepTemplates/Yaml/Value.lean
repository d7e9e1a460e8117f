import BicepTemplates.Double.Basic

/-! # YAML values

What a YAML document says once its notation is gone: anchors, styles and core tags are resolved,
and only application tags are left. A tag is kept without its leading exclamation mark, except for
the tag that is nothing but the mark. A mapping keeps the order of its entries.
-/

namespace BicepTemplates.Yaml

inductive Value where
  | null
  | bool (value : Bool)
  | int (value : Int)
  | double (value : Double)
  | text (value : String)
  | seq (items : List Value)
  | map (entries : List (Value × Value))
  | tagged (tag : String) (value : Value)
  deriving Inhabited, Repr

namespace Value

mutual

/-- Equality of keys. Entries of mappings may come in any order. -/
def same : Value → Value → Bool
  | .null, .null => true
  | .bool a, .bool b => a == b
  | .int a, .int b => a == b
  | .double a, .double b => a.sameNumber b
  | .text a, .text b => a == b
  | .seq xs, .seq ys => sameItems xs ys
  | .map xs, .map ys => xs.length == ys.length && sameEntries xs ys
  | .tagged t x, .tagged u y => t == u && same x y
  | _, _ => false

def sameItems : List Value → List Value → Bool
  | [], [] => true
  | x :: xs, y :: ys => same x y && sameItems xs ys
  | _, _ => false

/-- Each of the first entries is among the second. -/
def sameEntries : List (Value × Value) → List (Value × Value) → Bool
  | [], _ => true
  | (k, v) :: rest, others =>
    others.any (fun (k', v') => same k k' && same v v') && sameEntries rest others

end

/-- The value below all tags. -/
def untagged : Value → Value
  | .tagged _ v => v.untagged
  | v => v

/-- The string a value holds, possibly under tags. -/
def string? (v : Value) : Option String :=
  match v.untagged with
  | .text s => some s
  | _ => none

/-- The entry with the given key. -/
def entry? (key : Value) (entries : List (Value × Value)) : Option Value :=
  (entries.find? fun (k, _) => same k key).map (·.2)

theorem entry?_text_self {s : String} {v : Value} {rest : List (Value × Value)} :
    entry? (.text s) ((.text s, v) :: rest) = some v := by
  unfold entry?
  simp [same]

theorem entry?_text_of_ne {s : String} {key v : Value} {rest : List (Value × Value)}
    (h : key ≠ .text s) : entry? (.text s) ((key, v) :: rest) = entry? (.text s) rest := by
  have hsame : same key (.text s) = false := by
    cases key with
    | text t => simpa [same] using h
    | _ => rfl
  unfold entry?
  simp [hsame]

/-- Sets an entry: at its place if the key is there, and at the end otherwise. -/
def setEntry (key value : Value) : List (Value × Value) → List (Value × Value)
  | [] => [(key, value)]
  | (k, v) :: rest => if same k key then (k, value) :: rest else (k, v) :: setEntry key value rest

end Value

end BicepTemplates.Yaml
