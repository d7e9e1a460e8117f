import BicepTemplates.Proofs.Manifest.Checks

/-! # Where the first failing check is

A complaint about a value carries the address that leads from its parameter or resource to the
node: keys into mappings, positions in sequences and in interpolated strings, and positions among
the arguments of calls. Only a key that is no string has no address of its own, and is reported at
the mapping around it. The complaint is that of the first check that fails.
-/

namespace BicepTemplates

open Conversion

open Yaml (Value)

namespace Manifest

/-- The text leads from the manifest to the value. -/
inductive At (m : Manifest) : String → Value → Prop where
  | default {p : ParameterEntry} {v : Value} (hp : p ∈ m.parameters) (hv : p.default = some v) :
      At m s!"parameters.{p.name}.default" v
  | properties {r : ResourceEntry} (hr : r ∈ m.resources) :
      At m s!"resources.{r.name}" (.map r.properties)
  | entry {path name : String} {entries : List (Value × Value)} {key v : Value}
      (h : At m path (.map entries)) (hv : (key, v) ∈ entries) (hkey : key.string? = some name) :
      At m s!"{path}.{name}" v
  | item {path : String} {items : List Value} {i : Nat} {v : Value} (h : At m path (.seq items))
      (hv : items[i]? = some v) : At m s!"{path}[{i}]" v
  | segment {path : String} {items : List Value} {i : Nat} {v : Value}
      (h : At m path (.tagged "interpolate" (.seq items))) (hv : items[i]? = some v) :
      At m s!"{path}[{i}]" v
  | argument {path : String} {entries : List (Value × Value)} {items : List Value} {i : Nat}
      {v : Value} (h : At m path (.tagged "call" (.map entries)))
      (hitems : Value.entry? (.text "args") entries = some (.seq items))
      (hv : items[i]? = some v) : At m s!"{path}.args[{i}]" v

inductive Reports (m : Manifest) : Check → ManifestError → Prop where
  | name {text : String} {e : NameError} (h : Name.ofString text = .error e) :
      Reports m (.name text) (.engine (.name e))
  | path {text : String} {e : ExpressionError} (h : Expr.ofPath text = .error e) :
      Reports m (.path text) (.engine (.expression e))
  | key {place : Address} {entries : List (Value × Value)} {key v : Value}
      (h : m.At place.text (.map entries)) (hv : (key, v) ∈ entries) (hkey : key.string? = none) :
      Reports m (.key place key) (.unsupportedValue place .keyWithoutText)
  | tag {place : Address} {tag : String} {v : Value} (h : m.At place.text (.tagged tag v))
      (htag : tag ∉ expressionTags) : Reports m (.tag place tag) (.unsupportedTag place tag)
  | value {place : Address} {v : Value} {misfit : Misfit} (h : m.At place.text v)
      (hv : v.misfit? = some misfit) : Reports m (.value place v) (.unsupportedValue place misfit)
  | arguments {place : Address} {entries : List (Value × Value)} {v : Value}
      (h : m.At place.text (.tagged "call" (.map entries)))
      (hv : Value.entry? (.text "args") entries = some v) (hseq : v.isSeq = false) :
      Reports m (.arguments place v) (.unsupportedValue place .argumentsWithoutSequence)

/-- What the check looks at is where it says. -/
def Locates (m : Manifest) : Check → Prop
  | .name _ | .path _ => True
  | .key place key => ∃ entries v, m.At place.text (.map entries) ∧ (key, v) ∈ entries
  | .tag place tag => ∃ v, m.At place.text (.tagged tag v)
  | .value place v => m.At place.text v
  | .arguments place v => ∃ entries, m.At place.text (.tagged "call" (.map entries)) ∧
      Value.entry? (.text "args") entries = some v

section Locations

variable {m : Manifest} {place : Address} {c : Check} {e : ManifestError}

theorem reports_iff (hc : m.Locates c) : m.Reports c e ↔ c.error? = some e := by
  constructor
  · intro h
    cases h with
    | name h => simp [Check.error?, named, h, Except.mapError, failure?]
    | path h => simp [Check.error?, expressed, h, Except.mapError, failure?]
    | key _ _ hkey => simp [Check.error?, hkey]
    | tag _ htag => simp [Check.error?, htag]
    | value _ hv => simp [Check.error?, hv]
    | arguments _ _ hseq => simp [Check.error?, hseq]
  · intro h
    cases c with
    | name text =>
      obtain ⟨cause, hcause, rfl⟩ := mapError_eq_error_iff.mp (failure?_eq_some_iff.mp h)
      exact .name hcause
    | path text =>
      obtain ⟨cause, hcause, rfl⟩ := mapError_eq_error_iff.mp (failure?_eq_some_iff.mp h)
      exact .path hcause
    | key place key =>
      obtain ⟨entries, v, hat, hv⟩ := hc
      rw [Check.error?, Option.ite_none_left_eq_some] at h
      obtain ⟨hkey, h⟩ := h
      obtain rfl := Option.some.inj h
      exact .key hat hv (by simpa using hkey)
    | tag place tag =>
      obtain ⟨v, hat⟩ := hc
      rw [Check.error?, Option.ite_none_left_eq_some] at h
      obtain ⟨htag, h⟩ := h
      obtain rfl := Option.some.inj h
      exact .tag hat htag
    | value place v =>
      obtain ⟨misfit, hmisfit, rfl⟩ := Option.map_eq_some_iff.mp h
      exact .value hc hmisfit
    | arguments place v =>
      obtain ⟨entries, hat, hv⟩ := hc
      rw [Check.error?, Option.ite_none_left_eq_some] at h
      obtain ⟨hseq, h⟩ := h
      obtain rfl := Option.some.inj h
      exact .arguments hat hv (by simpa using hseq)

def ItemsAt (m : Manifest) (place : Nat → Address) (index : Nat) (items : List Value) : Prop :=
  ∀ i v, items[i]? = some v → m.At (place (index + i)).text v

theorem itemsAt_zero {place : Nat → Address} {items : List Value}
    (h : ∀ i v, items[i]? = some v → m.At (place i).text v) : m.ItemsAt place 0 items := by
  intro i v hv
  rw [Nat.zero_add]
  exact h i v hv

theorem ItemsAt.cons {place : Nat → Address} {index : Nat} {v : Value} {rest : List Value}
    (h : m.ItemsAt place index (v :: rest)) :
    m.At (place index).text v ∧ m.ItemsAt place (index + 1) rest := by
  refine ⟨h 0 v rfl, fun i w hw => ?_⟩
  have hnext := h (i + 1) w hw
  rwa [Nat.add_left_comm, Nat.add_comm] at hnext

theorem locates_tagged {tag : String} {v : Value} (h : m.At place.text (.tagged tag v)) :
    ∀ c ∈ [Check.tag place tag, .value place (.tagged tag v)], m.Locates c :=
  List.forall_mem_cons.mpr ⟨⟨v, h⟩, List.forall_mem_singleton.mpr h⟩

mutual

theorem locates_checks : ∀ (v : Value) {place : Address}, m.At place.text v →
    ∀ c ∈ v.checks place, m.Locates c
  | .null, _, h => List.forall_mem_singleton.mpr h
  | .bool _, _, h => List.forall_mem_singleton.mpr h
  | .int _, _, h => List.forall_mem_singleton.mpr h
  | .double _, _, h => List.forall_mem_singleton.mpr h
  | .text _, _, h => List.forall_mem_singleton.mpr h
  | .seq _, _, h => List.forall_mem_singleton.mpr h
  | .map _, _, h => List.forall_mem_singleton.mpr h
  | .tagged tag v, place, h => by
    rcases tagged_cases tag v with rfl | ⟨entries, rfl, rfl⟩ | ⟨items, rfl, rfl⟩ | hparts
    · refine List.forall_mem_append.mpr ⟨locates_tagged h, fun c hc => ?_⟩
      obtain ⟨path, -, rfl⟩ := Option.map_eq_some_iff.mp (Option.mem_toList.mp hc)
      exact trivial
    · exact List.forall_mem_append.mpr ⟨locates_tagged h, locates_argumentsChecks entries h rfl⟩
    · have hitems : m.ItemsAt (.item place) 0 items := itemsAt_zero fun _ _ => .segment h
      exact List.forall_mem_append.mpr ⟨locates_tagged h, locates_itemsChecks items hitems⟩
    · rw [(hparts place).1]
      exact locates_tagged h

theorem locates_argumentsChecks : ∀ (rest : List (Value × Value)) {place : Address}
    {entries : List (Value × Value)}, m.At place.text (.tagged "call" (.map entries)) →
    Value.entry? (.text "args") entries = Value.entry? (.text "args") rest →
    ∀ c ∈ Value.argumentsChecks place rest, m.Locates c
  | [], _, _, _, _ => List.forall_mem_nil _
  | (key, v) :: rest, place, entries, h, hargs => by
    by_cases hkey : key = .text "args"
    · subst hkey
      rw [Value.entry?_text_self] at hargs
      have hlocates : m.Locates (.arguments place v) := ⟨entries, h, hargs⟩
      cases v with
      | seq items =>
        have hitems : m.ItemsAt (.argument place) 0 items :=
          itemsAt_zero fun _ _ => .argument h hargs
        exact List.forall_mem_cons.mpr ⟨hlocates, locates_itemsChecks items hitems⟩
      | _ => exact List.forall_mem_singleton.mpr hlocates
    · rw [Value.entry?_text_of_ne hkey] at hargs
      rw [argumentsChecks_cons hkey]
      exact locates_argumentsChecks rest h hargs

theorem locates_itemsChecks : ∀ (items : List Value) {place : Nat → Address} {index : Nat},
    m.ItemsAt place index items → ∀ c ∈ Value.itemsChecks place index items, m.Locates c
  | [], _, _, _ => List.forall_mem_nil _
  | v :: rest, _, _, h =>
    List.forall_mem_append.mpr ⟨locates_checks v h.cons.1, locates_itemsChecks rest h.cons.2⟩

end

mutual

theorem locates_treeChecks : ∀ (v : Value) {place : Address}, m.At place.text v →
    ∀ c ∈ v.treeChecks place, m.Locates c
  | .map entries, _, h => locates_entriesChecks entries h fun _ he => he
  | .seq items, _, h => locates_elementsChecks items (itemsAt_zero fun _ _ => .item h)
  | .null, _, h => locates_checks .null h
  | .bool b, _, h => locates_checks (.bool b) h
  | .int n, _, h => locates_checks (.int n) h
  | .double x, _, h => locates_checks (.double x) h
  | .text s, _, h => locates_checks (.text s) h
  | .tagged tag v, _, h => locates_checks (.tagged tag v) h

theorem locates_entriesChecks : ∀ (rest : List (Value × Value)) {place : Address}
    {entries : List (Value × Value)}, m.At place.text (.map entries) →
    (∀ entry ∈ rest, entry ∈ entries) → ∀ c ∈ Value.entriesChecks place rest, m.Locates c
  | [], _, _, _, _ => List.forall_mem_nil _
  | (key, v) :: rest, place, entries, h, hrest => by
    obtain ⟨hentry, hrest⟩ := List.forall_mem_cons.mp hrest
    refine List.forall_mem_cons.mpr ⟨⟨entries, v, h, hentry⟩, List.forall_mem_append.mpr
      ⟨?_, locates_entriesChecks rest h hrest⟩⟩
    cases hkey : key.string? with
    | none => exact List.forall_mem_nil _
    | some name => exact locates_treeChecks v (.entry h hentry hkey)

theorem locates_elementsChecks : ∀ (items : List Value) {place : Address} {index : Nat},
    m.ItemsAt (.item place) index items →
    ∀ c ∈ Value.elementsChecks place index items, m.Locates c
  | [], _, _, _ => List.forall_mem_nil _
  | v :: rest, _, _, h =>
    List.forall_mem_append.mpr
      ⟨locates_treeChecks v h.cons.1, locates_elementsChecks rest h.cons.2⟩

end

/-- Every check of a manifest looks at what stands at its address. -/
theorem locates_of_mem_checks (m : Manifest) : ∀ c ∈ m.checks, m.Locates c := by
  refine List.forall_mem_append.mpr ⟨fun c hc => ?_, List.forall_mem_append.mpr
    ⟨fun c hc => ?_, fun c hc => ?_⟩⟩
  · obtain ⟨p, hp, hc⟩ := List.mem_flatMap.mp hc
    rcases List.mem_cons.mp hc with rfl | hc
    · exact trivial
    · cases hdefault : p.default with
      | none =>
        rw [hdefault] at hc
        exact absurd hc List.not_mem_nil
      | some v =>
        rw [hdefault] at hc
        exact locates_checks v (.default hp hdefault) c hc
  · obtain ⟨r, hr, hc⟩ := List.mem_flatMap.mp hc
    rcases List.mem_cons.mp hc with rfl | hc
    · exact trivial
    · exact locates_entriesChecks r.properties (.properties hr) (fun _ he => he) c hc
  · obtain ⟨o, -, hc⟩ := List.mem_flatMap.mp hc
    rcases List.mem_pair.mp hc with rfl | rfl
    · exact trivial
    · exact trivial

end Locations

/-- A manifest has a document exactly if none of its checks has anything to report. Otherwise it
fails with what the first one that has reports. -/
theorem document_eq_iff_checks (m : Manifest) :
    ((∃ d, m.document = .ok d) ↔ ∀ c ∈ m.checks, ∀ e, ¬ m.Reports c e) ∧
    ∀ e, m.document = .error e ↔ ∃ before c after, m.checks = before ++ c :: after ∧
      (∀ b ∈ before, ∀ e', ¬ m.Reports b e') ∧ m.Reports c e := by
  have hreports : ∀ c ∈ m.checks, ∀ e, m.Reports c e ↔ c.error? = some e :=
    fun c hc e => reports_iff (m.locates_of_mem_checks c hc)
  have hpasses : ∀ c ∈ m.checks, (∀ e, ¬ m.Reports c e) ↔ c.error? = none := by
    intro c hc
    rw [Option.eq_none_iff_forall_ne_some]
    exact forall_congr' fun e => not_congr (hreports c hc e)
  constructor
  · rw [← failure?_eq_none_iff, m.decided_document, List.findSome?_eq_none_iff]
    exact forall₂_congr fun c hc => (hpasses c hc).symm
  · intro e
    rw [← failure?_eq_some_iff, m.decided_document, List.findSome?_eq_some_iff]
    refine exists_congr fun before => exists_congr fun c => exists_congr fun after => ?_
    refine and_congr_right fun hsplit => ?_
    have hmem : ∀ b ∈ before, b ∈ m.checks := fun b hb => hsplit ▸ List.mem_append_left _ hb
    have hc : c ∈ m.checks := hsplit ▸ List.mem_append_cons_self
    rw [and_comm, hreports c hc]
    exact and_congr_left' (forall₂_congr fun b hb => (hpasses b (hmem b hb)).symm)

/-- An argument of a call inside an interpolated string inside an array. The null behind it comes
too late. -/
example :
    let call : Value := .tagged "call" (.map [(.text "name", .text "concat"),
      (.text "args", .seq [.int 1, .null])])
    let m : Manifest := { resources := [{
      name := "app"
      type := "Provider/apps@2023-07-01"
      properties := [(.text "names", .seq [.tagged "interpolate" (.seq [.text "app-", call])]),
        (.text "sku", .null)] }] }
    ∃ place, m.document = .error (.unsupportedValue place .null) ∧
      place.text = "resources.app.names[0][1].args[1]" :=
  ⟨.argument (.item (.item (.key (.resource "app") "names") 0) 1) 1, rfl, rfl⟩

end Manifest

end BicepTemplates
