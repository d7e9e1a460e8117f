import BicepTemplates.Proofs.Expression.Building
import BicepTemplates.Proofs.Manifest.Calls

/-! # Checks in the order of a manifest

Making a document of a manifest comes down to a list of checks that do not depend on each other:
of names, of paths, of keys, and of single nodes. The list follows the manifest from its first
parameter to its last output, with each node before its parts. The first check that fails decides.
-/

namespace BicepTemplates

open Yaml (Value)

/-- One thing that is asked of a manifest, with the address that a complaint would have. -/
inductive Check where
  | name (text : String)
  | path (text : String)
  | key (place : Address) (key : Value)
  | tag (place : Address) (tag : String)
  | value (place : Address) (v : Value)
  | arguments (place : Address) (v : Value)

def expressionTags : List String := ["ref", "call", "interpolate"]

namespace Yaml.Value

/-- Why the value is no expression, whatever its parts are. -/
def misfit? : Value → Option Misfit
  | .null => some .null
  | .double _ => some .double
  | .int n => if Conversion.isLiteral n then none else some .wideInteger
  | .seq _ => some .sequence
  | .map _ => some .mapping
  | .tagged "ref" v => if v.string?.isSome then none else some .referenceWithoutText
  | .tagged "call" (.map entries) =>
    if ((Value.entry? (.text "name") entries).bind string?).isSome then none
    else some .callWithoutName
  | .tagged "call" _ => some .callWithoutName
  | .tagged "interpolate" (.seq _) => none
  | .tagged "interpolate" _ => some .interpolationWithoutSequence
  | _ => none

def isSeq : Value → Bool
  | .seq _ => true
  | _ => false

mutual

/-- What is asked of an expression: first of the node, then of its parts. -/
def checks (place : Address) : Value → List Check
  | .tagged "ref" v =>
    [.tag place "ref", .value place (.tagged "ref" v)] ++ (v.string?.map Check.path).toList
  | .tagged "call" (.map entries) =>
    [.tag place "call", .value place (.tagged "call" (.map entries))] ++
      argumentsChecks place entries
  | .tagged "interpolate" (.seq items) =>
    [.tag place "interpolate", .value place (.tagged "interpolate" (.seq items))] ++
      itemsChecks (.item place) 0 items
  | .tagged tag v => [.tag place tag, .value place (.tagged tag v)]
  | v => [.value place v]

def argumentsChecks (place : Address) : List (Value × Value) → List Check
  | [] => []
  | (.text "args", .seq items) :: _ =>
    .arguments place (.seq items) :: itemsChecks (.argument place) 0 items
  | (.text "args", v) :: _ => [.arguments place v]
  | _ :: rest => argumentsChecks place rest

def itemsChecks (place : Nat → Address) (index : Nat) : List Value → List Check
  | [] => []
  | v :: rest => v.checks (place index) ++ itemsChecks place (index + 1) rest

end

mutual

def treeChecks (place : Address) : Value → List Check
  | .map entries => entriesChecks place entries
  | .seq items => elementsChecks place 0 items
  | v => v.checks place

/-- Each key comes before its value, which has no address without it. -/
def entriesChecks (place : Address) : List (Value × Value) → List Check
  | [] => []
  | (key, v) :: rest =>
    .key place key :: ((match key.string? with
      | some name => v.treeChecks (.key place name)
      | none => []) ++ entriesChecks place rest)

def elementsChecks (place : Address) (index : Nat) : List Value → List Check
  | [] => []
  | v :: rest => v.treeChecks (.item place index) ++ elementsChecks place (index + 1) rest

end

end Yaml.Value

def ParameterEntry.checks (p : ParameterEntry) : List Check :=
  .name p.name :: p.default.elim [] (Value.checks (.parameterDefault p.name))

def ResourceEntry.checks (r : ResourceEntry) : List Check :=
  .name r.name :: Value.entriesChecks (.resource r.name) r.properties

def OutputEntry.checks (o : OutputEntry) : List Check :=
  [.path o.value, .name o.name]

def Manifest.checks (m : Manifest) : List Check :=
  m.parameters.flatMap (·.checks) ++
    (m.resources.flatMap (·.checks) ++ m.outputs.flatMap (·.checks))

namespace Conversion

def failure? {α : Type} : Conversion α → Option ManifestError
  | .ok _ => none
  | .error e => some e

end Conversion

open Conversion

/-- What a failing check reports. -/
def Check.error? : Check → Option ManifestError
  | .name text => failure? (named (Name.ofString text))
  | .path text => failure? (expressed (Expr.ofPath text))
  | .key place k =>
    if k.string?.isSome then none else some (.unsupportedValue place .keyWithoutText)
  | .tag place t => if t ∈ expressionTags then none else some (.unsupportedTag place t)
  | .value place v => v.misfit?.map (.unsupportedValue place)
  | .arguments place v =>
    if v.isSeq then none else some (.unsupportedValue place .argumentsWithoutSequence)

/-- The computation fails exactly as the first check that does. -/
def Decided {α : Type} (x : Conversion α) (cs : List Check) : Prop :=
  failure? x = cs.findSome? Check.error?

section Steps

variable {α β : Type} {x : Conversion α} {f : α → Conversion β} {cs cs' : List Check}

theorem failure?_eq_some_iff {e : ManifestError} : failure? x = some e ↔ x = .error e := by
  cases x <;> simp [failure?]

theorem failure?_eq_none_iff : failure? x = none ↔ ∃ a, x = .ok a := by
  cases x <;> simp [failure?]

theorem decided_ok (a : α) : Decided (.ok a) [] := rfl

theorem Decided.bind (hx : Decided x cs) (hf : ∀ a, x = .ok a → Decided (f a) cs') :
    Decided (x >>= f) (cs ++ cs') := by
  unfold Decided at *
  rw [List.findSome?_append, ← hx]
  cases x with
  | error e => rfl
  | ok a => exact hf a rfl

theorem Decided.map (hx : Decided x cs) (g : α → β) :
    Decided (do return g (← x)) cs := by
  have h := hx.bind (f := fun a => pure (g a)) fun a _ => decided_ok (g a)
  rwa [List.append_nil] at h

theorem decided_mapM {γ : Type} {f : γ → Conversion α} {checks : γ → List Check}
    (hf : ∀ y, Decided (f y) (checks y)) : ∀ ys : List γ,
    Decided (ys.mapM f) (ys.flatMap checks)
  | [] => rfl
  | y :: ys => by
    rw [List.mapM_cons, List.flatMap_cons]
    exact (hf y).bind fun b _ => (decided_mapM hf ys).map (b :: ·)

end Steps

section Values

variable {place : Address} {v : Value} {entries : List (Value × Value)}

theorem argumentsChecks_cons {key : Value} (h : key ≠ .text "args") :
    Value.argumentsChecks place ((key, v) :: entries) = Value.argumentsChecks place entries := by
  rw [Value.argumentsChecks]
  · exact fun _ hentry => h (Prod.mk.inj hentry).1
  · exact fun _ hentry => h (Prod.mk.inj hentry).1

theorem length_literals_of_segments : ∀ (items : List Value) {index : Nat} {literal : String}
    {b b' : Interpolation}, segments place index literal b items = .ok b' →
    b.literals.length = b.expressions.length → b'.literals.length = b'.expressions.length + 1
  | [], _, _, b, b', h, hb => by
    obtain rfl := Except.ok.inj h
    simp [Interpolation.literal, hb]
  | v :: rest, _, _, b, b', h, hb => by
    rcases segments_cons_cases h with ⟨s, rfl, h⟩ | ⟨e, he, h⟩
    · exact length_literals_of_segments rest h hb
    · refine length_literals_of_segments rest h ?_
      simp [Interpolation.literal, Interpolation.expression, hb]

theorem decided_reference (v : Value) : Decided (expression place (.tagged "ref" v))
    (Value.checks place (.tagged "ref" v)) := by
  unfold Decided expression reference Value.checks
  cases hv : v.string? with
  | none => simp [Check.error?, Value.misfit?, expressionTags, hv, failure?, refuse]
  | some path => simp [Check.error?, Value.misfit?, expressionTags, hv]

theorem decided_calledName : Decided (calledName place entries)
    [.tag place "call", .value place (.tagged "call" (.map entries))] := by
  unfold Decided calledName
  cases hname : (Value.entry? (.text "name") entries).bind Value.string? with
  | none => simp [Check.error?, Value.misfit?, expressionTags, hname, failure?, refuse]
  | some name => simp [Check.error?, Value.misfit?, expressionTags, hname, failure?]

theorem decided_integer (n : Int) : Decided (integer place n) [.value place (.int n)] := by
  unfold Decided integer
  cases hn : isLiteral n <;> simp [Check.error?, Value.misfit?, hn, failure?, refuse]

/-- The content of a tag only has parts if it is of the kind that goes with the tag. Otherwise the
node itself is refused. -/
theorem tagged_cases (tag : String) (v : Value) :
    tag = "ref" ∨ (∃ entries, tag = "call" ∧ v = .map entries) ∨
    (∃ items, tag = "interpolate" ∧ v = .seq items) ∨
    ∀ place, Value.checks place (.tagged tag v) = [.tag place tag, .value place (.tagged tag v)] ∧
      Decided (expression place (.tagged tag v)) (Value.checks place (.tagged tag v)) := by
  by_cases href : tag = "ref"
  · exact .inl href
  by_cases hcall : tag = "call"
  · subst hcall
    cases v with
    | map entries => exact .inr (.inl ⟨entries, rfl, rfl⟩)
    | _ => exact .inr (.inr (.inr fun _ => ⟨rfl, rfl⟩))
  by_cases hinterpolate : tag = "interpolate"
  · subst hinterpolate
    cases v with
    | seq items => exact .inr (.inr (.inl ⟨items, rfl, rfl⟩))
    | _ => exact .inr (.inr (.inr fun _ => ⟨rfl, rfl⟩))
  refine .inr (.inr (.inr fun place => ?_))
  have hchecks : Value.checks place (.tagged tag v) =
      [.tag place tag, .value place (.tagged tag v)] := by
    rw [Value.checks]
    · exact href
    · exact fun _ htag _ => hcall htag
    · exact fun _ htag _ => hinterpolate htag
  have hexpression : expression place (.tagged tag v) = .error (.unsupportedTag place tag) := by
    rw [expression]
    · exact href
    · exact fun _ htag _ => hcall htag
    · exact hcall
    · exact fun _ htag _ => hinterpolate htag
    · exact hinterpolate
  refine ⟨hchecks, ?_⟩
  rw [hchecks, hexpression]
  simp [Decided, Check.error?, expressionTags, href, hcall, hinterpolate, failure?]

theorem decided_build {items : List Value} {b : Interpolation}
    (h : segments place 0 "" {} items = .ok b) : Decided (expressed b.build) [] := by
  obtain ⟨e, he⟩ := b.exists_build (.inr (length_literals_of_segments items h rfl))
  rw [he]
  rfl

mutual

theorem decided_expression : ∀ (v : Value) (place : Address),
    Decided (expression place v) (v.checks place)
  | .null, _ => rfl
  | .bool _, _ => rfl
  | .int n, _ => decided_integer n
  | .double _, _ => rfl
  | .text _, _ => rfl
  | .seq _, _ => rfl
  | .map _, _ => rfl
  | .tagged tag v, place => by
    rcases tagged_cases tag v with rfl | ⟨entries, rfl, rfl⟩ | ⟨items, rfl, rfl⟩ | h
    · exact decided_reference v
    · exact decided_calledName.bind fun name _ =>
        (decided_arguments entries place).map (Expr.call name)
    · have h := (decided_segments items place 0 "" {}).bind fun _ hb => decided_build hb
      rwa [List.append_nil] at h
    · exact (h place).2

theorem decided_arguments : ∀ (entries : List (Value × Value)) (place : Address),
    Decided (arguments place entries) (Value.argumentsChecks place entries)
  | [], _ => rfl
  | (key, v) :: rest, place => by
    by_cases hkey : key = .text "args"
    · subst hkey
      cases v with
      | seq items => exact decided_argumentItems items place 0
      | _ => rfl
    · rw [argumentsChecks_cons hkey, arguments_cons hkey]
      exact decided_arguments rest place

theorem decided_argumentItems : ∀ (items : List Value) (place : Address) (index : Nat),
    Decided (argumentItems place index items) (Value.itemsChecks (.argument place) index items)
  | [], _, _ => rfl
  | v :: rest, place, index =>
    (decided_expression v (.argument place index)).bind fun e _ =>
      (decided_argumentItems rest place (index + 1)).map (e :: ·)

/-- Strings are kept without a check, since the one that is asked of them never fails. -/
theorem decided_segments : ∀ (items : List Value) (place : Address) (index : Nat)
    (literal : String) (b : Interpolation), Decided (segments place index literal b items)
      (Value.itemsChecks (.item place) index items)
  | [], _, _, _, _ => rfl
  | v :: rest, place, index, literal, b => by
    by_cases hv : ∃ s, v = .text s
    · obtain ⟨s, rfl⟩ := hv
      exact decided_segments rest place (index + 1) (literal ++ s) b
    · rw [segments_cons fun s hs => hv ⟨s, hs⟩]
      exact (decided_expression v (.item place index)).bind fun e _ =>
        decided_segments rest place (index + 1) "" _

end

end Values

section Trees

theorem decided_keyName (place : Address) (key : Value) :
    Decided (keyName place key) [.key place key] := by
  unfold Decided keyName
  cases hkey : key.string? <;> simp [Check.error?, hkey, failure?, refuse]

mutual

theorem decided_property : ∀ (v : Value) (place : Address) (name : String),
    Decided (property place name v) (v.treeChecks place)
  | .map entries, place, name => (decided_properties entries place).map (Property.bag name)
  | .seq items, place, name => (decided_elements items place 0).map (Property.array name)
  | .null, place, name => (decided_expression .null place).map (Property.scalar name)
  | .bool b, place, name => (decided_expression (.bool b) place).map (Property.scalar name)
  | .int n, place, name => (decided_expression (.int n) place).map (Property.scalar name)
  | .double x, place, name => (decided_expression (.double x) place).map (Property.scalar name)
  | .text s, place, name => (decided_expression (.text s) place).map (Property.scalar name)
  | .tagged tag v, place, name =>
    (decided_expression (.tagged tag v) place).map (Property.scalar name)

theorem decided_properties : ∀ (entries : List (Value × Value)) (place : Address),
    Decided (properties place entries) (Value.entriesChecks place entries)
  | [], _ => rfl
  | (key, v) :: rest, place => by
    -- the address of the value, and with it what is asked there, is only known with the name
    cases hkey : key.string? with
    | none =>
      have hname : keyName place key = refuse place .keyWithoutText := by rw [keyName, hkey]
      rw [properties, hname, Value.entriesChecks]
      simp [Decided, Check.error?, hkey, refuse, failure?, bind, Except.bind]
    | some name =>
      have hname : keyName place key = .ok name := by rw [keyName, hkey]
      rw [properties, Value.entriesChecks, hkey]
      refine (decided_keyName place key).bind fun name' hname' => ?_
      obtain rfl := Except.ok.inj (hname.symm.trans hname')
      exact (decided_property v (.key place name) name).bind fun p _ =>
        (decided_properties rest place).map (p :: ·)

theorem decided_elements : ∀ (items : List Value) (place : Address) (index : Nat),
    Decided (elements place index items) (Value.elementsChecks place index items)
  | [], _, _ => rfl
  | v :: rest, place, index =>
    (decided_element v (.item place index)).bind fun e _ =>
      (decided_elements rest place (index + 1)).map (e :: ·)

theorem decided_element : ∀ (v : Value) (place : Address),
    Decided (element place v) (v.treeChecks place)
  | .map entries, place => (decided_properties entries place).map Element.bag
  | .seq items, place => (decided_elements items place 0).map (Element.array "")
  | .null, place => (decided_expression .null place).map Element.scalar
  | .bool b, place => (decided_expression (.bool b) place).map Element.scalar
  | .int n, place => (decided_expression (.int n) place).map Element.scalar
  | .double x, place => (decided_expression (.double x) place).map Element.scalar
  | .text s, place => (decided_expression (.text s) place).map Element.scalar
  | .tagged tag v, place => (decided_expression (.tagged tag v) place).map Element.scalar

end

end Trees

section Entries

theorem decided_name (text : String) : Decided (named (Name.ofString text)) [.name text] := by
  simp [Decided, Check.error?]

theorem decided_path (text : String) : Decided (expressed (Expr.ofPath text)) [.path text] := by
  simp [Decided, Check.error?]

theorem decided_parameter (p : ParameterEntry) : Decided (parameter p) p.checks := by
  refine (decided_name p.name).bind fun name _ => ?_
  have hdefault : Decided (p.default.mapM (expression (.parameterDefault p.name)))
      (p.default.elim [] (Value.checks (.parameterDefault p.name))) := by
    cases p.default with
    | none => rfl
    | some v => exact (decided_expression v _).map some
  exact hdefault.map _

theorem decided_declaration (r : ResourceEntry) : Decided (declaration r) r.checks := by
  have hnew : Decided (named (Declaration.new r.name r.type)) [.name r.name] := by
    simp only [Decided, Check.error?, Declaration.new, List.findSome?_singleton]
    cases Name.ofString r.name <;> rfl
  exact hnew.bind fun _ _ => (decided_properties r.properties _).map _

theorem decided_output (o : OutputEntry) : Decided (output o) o.checks :=
  (decided_path o.value).bind fun _ _ => (decided_name o.name).map _

theorem Manifest.decided_document (m : Manifest) : Decided m.document m.checks :=
  (decided_mapM decided_parameter m.parameters).bind fun _ _ =>
    (decided_mapM decided_declaration m.resources).bind fun _ _ =>
      (decided_mapM decided_output m.outputs).map _

end Entries

end BicepTemplates
