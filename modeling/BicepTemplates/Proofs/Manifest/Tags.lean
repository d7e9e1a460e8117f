import BicepTemplates.Proofs.Manifest.Checks

/-! # Tags

A value with a tag that makes no expression is refused. But where only a text is wanted, that is for
keys, names of called functions and references, a tag around it is passed over, and entries of a
call other than its name and its arguments are not looked at. The document does not depend on what
is passed over, and all other tags in the manifest of a document make expressions.
-/

namespace BicepTemplates

open Yaml (Value)

namespace Yaml.Value

mutual

/-- All tags in the value, around keys too. -/
def tags : Value → List String
  | .seq items => itemsTags items
  | .map entries => entriesTags entries
  | .tagged tag v => tag :: v.tags
  | _ => []

def itemsTags : List Value → List String
  | [] => []
  | v :: rest => v.tags ++ itemsTags rest

def entriesTags : List (Value × Value) → List String
  | [] => []
  | (key, v) :: rest => key.tags ++ v.tags ++ entriesTags rest

end

def calledHeeded (entries : List (Value × Value)) : List (Value × Value) :=
  ((Value.entry? (.text "name") entries).map fun v => (.text "name", v.untagged)).toList

mutual

/-- What an expression is made of, without anything that is passed over. -/
def heeded : Value → Value
  | .tagged "ref" v => .tagged "ref" v.untagged
  | .tagged "call" (.map entries) =>
    .tagged "call" (.map (calledHeeded entries ++ argumentsHeeded entries))
  | .tagged "interpolate" (.seq items) => .tagged "interpolate" (.seq (itemsHeeded items))
  | v => v

def argumentsHeeded : List (Value × Value) → List (Value × Value)
  | [] => []
  | (.text "args", .seq items) :: _ => [(.text "args", .seq (itemsHeeded items))]
  | (.text "args", v) :: _ => [(.text "args", v)]
  | _ :: rest => argumentsHeeded rest

def itemsHeeded : List Value → List Value
  | [] => []
  | v :: rest => v.heeded :: itemsHeeded rest

end

mutual

def treeHeeded : Value → Value
  | .map entries => .map (entriesHeeded entries)
  | .seq items => .seq (elementsHeeded items)
  | v => v.heeded

def entriesHeeded : List (Value × Value) → List (Value × Value)
  | [] => []
  | (key, v) :: rest => (key.untagged, v.treeHeeded) :: entriesHeeded rest

def elementsHeeded : List Value → List Value
  | [] => []
  | v :: rest => v.treeHeeded :: elementsHeeded rest

end

end Yaml.Value

def ParameterEntry.tags (p : ParameterEntry) : List String :=
  p.default.elim [] Value.tags

def ParameterEntry.heeded (p : ParameterEntry) : ParameterEntry :=
  { p with default := p.default.map Value.heeded }

def ResourceEntry.tags (r : ResourceEntry) : List String :=
  Value.entriesTags r.properties

def ResourceEntry.heeded (r : ResourceEntry) : ResourceEntry :=
  { r with properties := Value.entriesHeeded r.properties }

namespace Manifest

/-- The manifest without anything that is passed over. -/
def heeded (m : Manifest) : Manifest :=
  { m with
    parameters := m.parameters.map ParameterEntry.heeded
    resources := m.resources.map ResourceEntry.heeded }

def tags (m : Manifest) : List String :=
  m.parameters.flatMap ParameterEntry.tags ++ m.resources.flatMap ResourceEntry.tags

end Manifest

/-- Two computations give the same, and they only succeed if the tags make expressions. -/
structure Heeds {α : Type} (x x' : Conversion α) (tags : List String) : Prop where
  same : x' = x
  supported : ∀ a, x = .ok a → ∀ tag ∈ tags, tag ∈ expressionTags

section Steps

variable {α β : Type} {x x' : Conversion α} {f f' : α → Conversion β} {tags tags' : List String}

theorem heeds_nil (x : Conversion α) : Heeds x x [] :=
  ⟨rfl, fun _ _ => List.forall_mem_nil _⟩

theorem heeds_error (e : ManifestError) (tags : List String) :
    Heeds (.error e : Conversion α) (.error e) tags :=
  ⟨rfl, fun _ h => nomatch h⟩

theorem Heeds.cons (h : Heeds x x' tags) {tag : String} (htag : tag ∈ expressionTags) :
    Heeds x x' (tag :: tags) :=
  ⟨h.same, fun a ha => List.forall_mem_cons.mpr ⟨htag, h.supported a ha⟩⟩

theorem Heeds.bind (h : Heeds x x' tags) (hf : ∀ a, x = .ok a → Heeds (f a) (f' a) tags') :
    Heeds (x >>= f) (x' >>= f') (tags ++ tags') := by
  obtain ⟨rfl, hsupported⟩ := h
  cases x' with
  | error e => exact heeds_error e _
  | ok a =>
    refine ⟨(hf a rfl).same, fun b hb => List.forall_mem_append.mpr ⟨hsupported a rfl, ?_⟩⟩
    exact (hf a rfl).supported b hb

theorem Heeds.map (h : Heeds x x' tags) (g : α → β) :
    Heeds (do return g (← x)) (do return g (← x')) tags := by
  have hdone : ∀ a, Heeds (pure (g a)) (pure (g a)) [] := fun a => heeds_nil _
  have hmap := h.bind fun a _ => hdone a
  rwa [List.append_nil] at hmap

theorem heeds_mapM {γ : Type} {f : γ → Conversion α} {g : γ → γ} {tags : γ → List String}
    (hf : ∀ y, Heeds (f y) (f (g y)) (tags (g y))) : ∀ ys : List γ,
    Heeds (ys.mapM f) ((ys.map g).mapM f) ((ys.map g).flatMap tags)
  | [] => heeds_nil _
  | y :: ys => by
    rw [List.map_cons, List.mapM_cons, List.mapM_cons, List.flatMap_cons]
    exact (hf y).bind fun b _ => (heeds_mapM hf ys).map (b :: ·)

end Steps

namespace Yaml.Value

variable {tag : String} {v : Value} {entries rest : List (Value × Value)}

theorem untagged_untagged : ∀ v : Value, v.untagged.untagged = v.untagged
  | .tagged _ v => untagged_untagged v
  | .null => rfl
  | .bool _ => rfl
  | .int _ => rfl
  | .double _ => rfl
  | .text _ => rfl
  | .seq _ => rfl
  | .map _ => rfl

theorem string?_untagged (v : Value) : v.untagged.string? = v.string? := by
  rw [string?, string?, untagged_untagged]

theorem tags_untagged_of_string? {s : String} (h : v.string? = some s) : v.untagged.tags = [] := by
  unfold string? at h
  split at h
  · next hv =>
    rw [hv]
    rfl
  · exact nomatch h

theorem entriesTags_append (entries rest : List (Value × Value)) :
    entriesTags (entries ++ rest) = entriesTags entries ++ entriesTags rest := by
  induction entries with
  | nil => rfl
  | cons entry entries ih =>
    obtain ⟨key, v⟩ := entry
    rw [List.cons_append, entriesTags, entriesTags, ih, List.append_assoc, List.append_assoc,
      List.append_assoc]

theorem argumentsHeeded_cons {key : Value} (h : key ≠ .text "args") :
    argumentsHeeded ((key, v) :: rest) = argumentsHeeded rest := by
  rw [argumentsHeeded]
  · exact fun _ hentry => h (Prod.mk.inj hentry).1
  · exact fun _ hentry => h (Prod.mk.inj hentry).1

/-- No expression has this tag around this value. -/
structure Unfit (tag : String) (v : Value) : Prop where
  not_ref : tag ≠ "ref"
  not_call : ∀ entries, tag = "call" → v ≠ .map entries
  not_interpolate : ∀ items, tag = "interpolate" → v ≠ .seq items

theorem fit_cases (tag : String) (v : Value) : tag = "ref" ∨
    (∃ entries, tag = "call" ∧ v = .map entries) ∨
    (∃ items, tag = "interpolate" ∧ v = .seq items) ∨ Unfit tag v := by
  by_cases href : tag = "ref"
  · exact .inl href
  by_cases hcall : ∃ entries, tag = "call" ∧ v = .map entries
  · exact .inr (.inl hcall)
  by_cases hinterpolate : ∃ items, tag = "interpolate" ∧ v = .seq items
  · exact .inr (.inr (.inl hinterpolate))
  exact .inr (.inr (.inr ⟨href, fun entries htag hv => hcall ⟨entries, htag, hv⟩,
    fun items htag hv => hinterpolate ⟨items, htag, hv⟩⟩))

theorem heeded_of_unfit (h : Unfit tag v) : heeded (.tagged tag v) = .tagged tag v := by
  rw [heeded]
  · exact fun _ he => h.not_ref (Value.tagged.inj he).1
  · exact fun entries he => h.not_call entries (Value.tagged.inj he).1 (Value.tagged.inj he).2
  · exact fun items he => h.not_interpolate items (Value.tagged.inj he).1 (Value.tagged.inj he).2

theorem exists_heeded_tagged (tag : String) (v : Value) :
    ∃ w, heeded (.tagged tag v) = .tagged tag w := by
  rcases fit_cases tag v with rfl | ⟨entries, rfl, rfl⟩ | ⟨items, rfl, rfl⟩ | h
  · exact ⟨_, rfl⟩
  · exact ⟨_, rfl⟩
  · exact ⟨_, rfl⟩
  · exact ⟨v, heeded_of_unfit h⟩

theorem heeded_ne_text (h : ∀ s, v ≠ .text s) : ∀ s, v.heeded ≠ .text s := by
  cases v with
  | tagged tag v =>
    obtain ⟨w, hw⟩ := exists_heeded_tagged tag v
    rw [hw]
    exact nofun
  | _ => exact h

end Yaml.Value

namespace Conversion

variable {place : Address} {tag : String} {v : Value} {entries : List (Value × Value)}

theorem heeds_reference (place : Address) (v : Value) :
    Heeds (reference place v) (reference place v.untagged) v.untagged.tags := by
  unfold reference
  rw [Value.string?_untagged]
  cases hv : v.string? with
  | none => exact heeds_error _ _
  | some path =>
    rw [Value.tags_untagged_of_string? hv]
    exact heeds_nil _

theorem entry?_name_argumentsHeeded : ∀ entries : List (Value × Value),
    Value.entry? (.text "name") (Value.argumentsHeeded entries) = none
  | [] => rfl
  | (key, v) :: rest => by
    by_cases hkey : key = .text "args"
    · subst hkey
      have hne : Value.text "args" ≠ .text "name" := by simp
      cases v <;> exact Value.entry?_text_of_ne hne
    · rw [Value.argumentsHeeded_cons hkey]
      exact entry?_name_argumentsHeeded rest

theorem heeds_calledName (place : Address) (entries : List (Value × Value)) :
    Heeds (calledName place entries)
      (calledName place (Value.calledHeeded entries ++ Value.argumentsHeeded entries))
      (Value.entriesTags (Value.calledHeeded entries)) := by
  unfold calledName Value.calledHeeded
  cases hentry : Value.entry? (.text "name") entries with
  | none =>
    rw [Option.map_none, Option.toList_none, List.nil_append, entry?_name_argumentsHeeded]
    exact heeds_nil _
  | some v =>
    rw [Option.map_some, Option.toList_some, List.singleton_append, Value.entry?_text_self,
      Option.bind_some, Option.bind_some, Value.string?_untagged]
    cases hv : v.string? with
    | none => exact heeds_error _ _
    | some name =>
      rw [Value.entriesTags, Value.tags_untagged_of_string? hv]
      exact heeds_nil _

theorem arguments_calledHeeded (place : Address) (entries rest : List (Value × Value)) :
    arguments place (Value.calledHeeded entries ++ rest) = arguments place rest := by
  unfold Value.calledHeeded
  cases Value.entry? (.text "name") entries with
  | none => rfl
  | some v => exact arguments_cons (by simp)

theorem heeds_tagged_of_unfit (hunfit : Value.Unfit tag v) :
    Heeds (expression place (.tagged tag v)) (expression place (Value.heeded (.tagged tag v)))
      (Value.heeded (.tagged tag v)).tags := by
  rw [Value.heeded_of_unfit hunfit]
  refine ⟨rfl, fun e h => ?_⟩
  rcases expression_tagged_cases h with ⟨htag, -⟩ | ⟨entries, _, _, htag, hv, -⟩ |
    ⟨items, _, htag, hv, -⟩
  · exact absurd htag hunfit.not_ref
  · exact absurd hv (hunfit.not_call entries htag)
  · exact absurd hv (hunfit.not_interpolate items htag)

mutual

/-- The recursion is that of the conversion, with one case for each shape a tag goes with. -/
theorem heeds_expression : ∀ (v : Value) (place : Address),
    Heeds (expression place v) (expression place v.heeded) v.heeded.tags
  | .null, _ => heeds_error _ _
  | .bool _, _ => heeds_nil _
  | .int _, _ => heeds_nil _
  | .double _, _ => heeds_error _ _
  | .text _, _ => heeds_nil _
  | .seq _, _ => heeds_error _ _
  | .map _, _ => heeds_error _ _
  | .tagged tag v, place => by
    rcases Value.fit_cases tag v with rfl | ⟨entries, rfl, rfl⟩ | ⟨items, rfl, rfl⟩ | hunfit
    · have hsupported : "ref" ∈ expressionTags := by decide
      exact (heeds_reference place v).cons hsupported
    · have hsupported : "call" ∈ expressionTags := by decide
      -- the name that stands in front now is none of the arguments
      have harguments := heeds_arguments entries place
      rw [← arguments_calledHeeded place entries (Value.argumentsHeeded entries)] at harguments
      have h := (heeds_calledName place entries).bind fun name _ => harguments.map (Expr.call name)
      rw [← Value.entriesTags_append] at h
      exact h.cons hsupported
    · have hsupported : "interpolate" ∈ expressionTags := by decide
      have h := (heeds_segments items place 0 "" {}).bind fun b _ =>
        heeds_nil (expressed b.build)
      rw [List.append_nil] at h
      exact h.cons hsupported
    · exact heeds_tagged_of_unfit hunfit

theorem heeds_arguments : ∀ (entries : List (Value × Value)) (place : Address),
    Heeds (arguments place entries) (arguments place (Value.argumentsHeeded entries))
      (Value.entriesTags (Value.argumentsHeeded entries))
  | [], _ => heeds_nil _
  | (key, v) :: rest, place => by
    by_cases hkey : key = .text "args"
    · subst hkey
      cases v with
      | seq items =>
        rw [Value.argumentsHeeded, Value.entriesTags, Value.entriesTags, List.append_nil]
        exact heeds_argumentItems items place 0
      | _ => exact heeds_error _ _
    · rw [arguments_cons hkey, Value.argumentsHeeded_cons hkey]
      exact heeds_arguments rest place

theorem heeds_argumentItems : ∀ (items : List Value) (place : Address) (index : Nat),
    Heeds (argumentItems place index items) (argumentItems place index (Value.itemsHeeded items))
      (Value.itemsTags (Value.itemsHeeded items))
  | [], _, _ => heeds_nil _
  | v :: rest, place, index =>
    (heeds_expression v (.argument place index)).bind fun e _ =>
      (heeds_argumentItems rest place (index + 1)).map (e :: ·)

theorem heeds_segments : ∀ (items : List Value) (place : Address) (index : Nat)
    (literal : String) (b : Interpolation), Heeds (segments place index literal b items)
      (segments place index literal b (Value.itemsHeeded items))
      (Value.itemsTags (Value.itemsHeeded items))
  | [], _, _, _, _ => heeds_nil _
  | v :: rest, place, index, literal, b => by
    by_cases hv : ∃ s, v = .text s
    · obtain ⟨s, rfl⟩ := hv
      exact heeds_segments rest place (index + 1) (literal ++ s) b
    · have hne : ∀ s, v ≠ .text s := fun s hs => hv ⟨s, hs⟩
      rw [Value.itemsHeeded, segments_cons hne, segments_cons (Value.heeded_ne_text hne)]
      exact (heeds_expression v (.item place index)).bind fun e _ =>
        heeds_segments rest place (index + 1) "" _

end

theorem heeds_keyName (place : Address) (key : Value) :
    Heeds (keyName place key) (keyName place key.untagged) key.untagged.tags := by
  unfold keyName
  rw [Value.string?_untagged]
  cases hkey : key.string? with
  | none => exact heeds_error _ _
  | some name =>
    rw [Value.tags_untagged_of_string? hkey]
    exact heeds_nil _

mutual

theorem heeds_property : ∀ (v : Value) (place : Address) (name : String),
    Heeds (property place name v) (property place name v.treeHeeded) v.treeHeeded.tags
  | .map entries, place, name => (heeds_properties entries place).map (Property.bag name)
  | .seq items, place, name => (heeds_elements items place 0).map (Property.array name)
  | .null, place, name => (heeds_expression .null place).map (Property.scalar name)
  | .bool b, place, name => (heeds_expression (.bool b) place).map (Property.scalar name)
  | .int n, place, name => (heeds_expression (.int n) place).map (Property.scalar name)
  | .double x, place, name => (heeds_expression (.double x) place).map (Property.scalar name)
  | .text s, place, name => (heeds_expression (.text s) place).map (Property.scalar name)
  | .tagged tag v, place, name => by
    have h := (heeds_expression (.tagged tag v) place).map (Property.scalar name)
    obtain ⟨w, hw⟩ := Value.exists_heeded_tagged tag v
    have htree : Value.treeHeeded (.tagged tag v) = .tagged tag w := hw
    rw [hw] at h
    rwa [htree]

theorem heeds_properties : ∀ (entries : List (Value × Value)) (place : Address),
    Heeds (properties place entries) (properties place (Value.entriesHeeded entries))
      (Value.entriesTags (Value.entriesHeeded entries))
  | [], _ => heeds_nil _
  | (key, v) :: rest, place => by
    rw [Value.entriesHeeded, Value.entriesTags, List.append_assoc]
    exact (heeds_keyName place key).bind fun name _ =>
      (heeds_property v (.key place name) name).bind fun p _ =>
        (heeds_properties rest place).map (p :: ·)

theorem heeds_elements : ∀ (items : List Value) (place : Address) (index : Nat),
    Heeds (elements place index items) (elements place index (Value.elementsHeeded items))
      (Value.itemsTags (Value.elementsHeeded items))
  | [], _, _ => heeds_nil _
  | v :: rest, place, index =>
    (heeds_element v (.item place index)).bind fun e _ =>
      (heeds_elements rest place (index + 1)).map (e :: ·)

theorem heeds_element : ∀ (v : Value) (place : Address),
    Heeds (element place v) (element place v.treeHeeded) v.treeHeeded.tags
  | .map entries, place => (heeds_properties entries place).map Element.bag
  | .seq items, place => (heeds_elements items place 0).map (Element.array "")
  | .null, place => (heeds_expression .null place).map Element.scalar
  | .bool b, place => (heeds_expression (.bool b) place).map Element.scalar
  | .int n, place => (heeds_expression (.int n) place).map Element.scalar
  | .double x, place => (heeds_expression (.double x) place).map Element.scalar
  | .text s, place => (heeds_expression (.text s) place).map Element.scalar
  | .tagged tag v, place => by
    have h := (heeds_expression (.tagged tag v) place).map Element.scalar
    obtain ⟨w, hw⟩ := Value.exists_heeded_tagged tag v
    have htree : Value.treeHeeded (.tagged tag v) = .tagged tag w := hw
    rw [hw] at h
    rwa [htree]

end

theorem heeds_parameter (p : ParameterEntry) :
    Heeds (parameter p) (parameter p.heeded) p.heeded.tags := by
  have hdefault : Heeds (p.default.mapM (expression (.parameterDefault p.name)))
      (p.heeded.default.mapM (expression (.parameterDefault p.name))) p.heeded.tags := by
    rw [ParameterEntry.tags, ParameterEntry.heeded]
    cases p.default with
    | none => exact heeds_nil _
    | some v => exact (heeds_expression v _).map some
  exact (heeds_nil (named (Name.ofString p.name))).bind fun _ _ => hdefault.map _

theorem heeds_declaration (r : ResourceEntry) :
    Heeds (declaration r) (declaration r.heeded) r.heeded.tags :=
  (heeds_nil (named (Declaration.new r.name r.type))).bind fun _ _ =>
    (heeds_properties r.properties (.resource r.name)).map _

end Conversion

namespace Manifest

open Conversion

theorem heeds_document (m : Manifest) : Heeds m.document m.heeded.document m.heeded.tags := by
  have houtputs : Heeds (m.outputs.mapM output) (m.outputs.mapM output) [] := heeds_nil _
  have h := (heeds_mapM heeds_parameter m.parameters).bind fun ps _ =>
    (heeds_mapM heeds_declaration m.resources).bind fun rs _ => houtputs.map fun os =>
      ({ targetScope := m.targetScope
         parameters := ps
         resources := rs.map .declaration
         outputs := os } : Document)
  rwa [List.append_nil] at h

/-- The document is the same without what is passed over. If there is one, all other tags in the
manifest make expressions. -/
theorem tags_of_document (m : Manifest) : m.heeded.document = m.document ∧
    ∀ d, m.document = .ok d → ∀ tag ∈ m.heeded.tags, tag ∈ expressionTags :=
  ⟨(heeds_document m).same, (heeds_document m).supported⟩

/-- Tags around a key, the name of a function and a reference, and one in a further entry. -/
def overlooking : Manifest where
  resources := [{
    name := "app"
    type := "Provider/apps@2023-07-01"
    properties := [(.tagged "env" (.text "tier"), .tagged "call" (.map [
      (.text "name", .tagged "env" (.text "guid")),
      (.text "args", .seq [.tagged "ref" (.tagged "env" (.text "app.id"))]),
      (.text "note", .tagged "env" .null)]))] }]

theorem tags_of_document_overlooking : ∃ d, overlooking.document = .ok d ∧
    overlooking.heeded.document = .ok d ∧ overlooking.heeded.tags = ["call", "ref"] ∧
    ∀ tag ∈ overlooking.heeded.tags, tag ∈ expressionTags := by
  obtain ⟨hsame, hsupported⟩ := tags_of_document overlooking
  exact ⟨_, rfl, hsame, rfl, hsupported _ rfl⟩

/-- A tag that makes no expression is accepted around a key. -/
theorem tags_of_document_key :
    let m : Manifest := {
      resources := [{
        name := "app"
        type := "Provider/apps@2023-07-01"
        properties := [(.tagged "env" (.text "tier"), .text "basic")] }] }
    ∃ d, m.document = .ok d ∧ ∃ tag ∈ m.tags, tag ∉ expressionTags :=
  ⟨_, rfl, "env", by decide, by decide⟩

end Manifest

end BicepTemplates
