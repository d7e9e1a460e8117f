import BicepTemplates.Proofs.Document.Outcome
import Mathlib.Data.List.Nodup

/-! # The blocks of a rendered document

The text of a document that renders is made of one block for each declaration, in their order. Each
block shows the header of its resource and the body this constructs, and no two stand under one
symbol. The blocks of a resource and of all it owns stand together.
-/

namespace BicepTemplates

/-- The blocks of the resources in the text of a document. -/
structure Document.Blocks (d : Document) (text : String) (shown : List Declared) : Prop where
  text_eq : text = String.ofList (d.chars shown)
  declared : List.Forall₂ (fun r s => r.declared = .ok s) d.declarations shown
  symbols_nodup : (d.parameters.map (·.name.text) ++ shown.map (·.header.name.text)).Nodup

section Pairs

variable {α β : Type} {R : α → β → Prop}

theorem forall₂_append_left {xs xs' : List α} {ys : List β} (h : List.Forall₂ R (xs ++ xs') ys) :
    ∃ zs zs', ys = zs ++ zs' ∧ List.Forall₂ R xs zs ∧ List.Forall₂ R xs' zs' := by
  induction xs generalizing ys with
  | nil => exact ⟨[], ys, rfl, .nil, h⟩
  | cons x xs ih =>
    rw [List.cons_append, List.forall₂_cons_left_iff] at h
    obtain ⟨y, ys, hxy, hrest, rfl⟩ := h
    obtain ⟨zs, zs', rfl, hzs, hzs'⟩ := ih hrest
    exact ⟨y :: zs, zs', rfl, .cons hxy hzs, hzs'⟩

theorem exists_right_of_forall₂ {xs : List α} {ys : List β} (h : List.Forall₂ R xs ys) {x : α}
    (hx : x ∈ xs) : ∃ y ∈ ys, R x y := by
  obtain ⟨before, after, rfl⟩ := List.append_of_mem hx
  obtain ⟨zs, zs', rfl, -, hrest⟩ := forall₂_append_left h
  obtain ⟨y, zs', hxy, -, rfl⟩ := List.forall₂_cons_left_iff.mp hrest
  exact ⟨y, by simp, hxy⟩

end Pairs

theorem filter_key_eq_singleton {α κ : Type} [DecidableEq κ] {f : α → κ} {xs : List α}
    (h : (xs.map f).Nodup) {x : α} (hx : x ∈ xs) : xs.filter (fun y => f y = f x) = [x] := by
  obtain ⟨before, after, rfl⟩ := List.append_of_mem hx
  rw [List.map_append, List.map_cons, List.nodup_middle, List.nodup_cons, List.mem_append,
    not_or, List.mem_map, List.mem_map] at h
  have hbefore : before.filter (fun y => f y = f x) = [] := by
    rw [List.filter_eq_nil_iff]
    exact fun y hy heq => h.1.1 ⟨y, hy, of_decide_eq_true heq⟩
  have hafter : after.filter (fun y => f y = f x) = [] := by
    rw [List.filter_eq_nil_iff]
    exact fun y hy heq => h.1.2 ⟨y, hy, of_decide_eq_true heq⟩
  simp [List.filter_append, hbefore, hafter]

theorem Resource.declared_eq_ok_iff {r : Resource} {s : Declared} :
    r.declared = .ok s ↔ s.header = r.header ∧ r.body = .ok s.body := by
  obtain ⟨header, body⟩ := s
  unfold declared
  cases hbody : r.body with
  | error e => simp [Except.map]
  | ok ps => simp [Except.map, eq_comm]

theorem names_of_declared {rs : List Resource} {shown : List Declared}
    (h : List.Forall₂ (fun r s => r.declared = .ok s) rs shown) :
    shown.map (·.header.name.text) = rs.map (·.name.text) := by
  induction h with
  | nil => rfl
  | cons hr hrs ih =>
    rw [List.map_cons, List.map_cons, ih, (Resource.declared_eq_ok_iff.mp hr).1]
    rfl

namespace Document

variable {d : Document} {text : String} {warnings : List Warning} {shown : List Declared}
  {r : Resource}

theorem mem_declarations (hr : r ∈ d.resources) : ∀ s ∈ r.family, s ∈ d.declarations :=
  fun _ hs => List.mem_flatMap.mpr ⟨r, hr, hs⟩

/-- Rendering gives the blocks, and every resource among them passes its checks. -/
theorem blocks_of_render (h : d.render = .ok (text, warnings)) :
    (∃ shown, d.Blocks text shown) ∧ ∀ r ∈ d.declarations, ∃ left, r.validate = .ok left := by
  obtain ⟨shown, hsymbols, -, hshown, htemplate⟩ := exists_shows_of_render h
  obtain ⟨htext, -⟩ := Prod.mk.inj htemplate
  have hdeclared : List.Forall₂ (fun r s => r.declared = .ok s) d.declarations
      (shown.map (·.1)) := by
    rw [List.forall₂_map_right_iff]
    exact hshown.imp fun r s hs => hs.2
  refine ⟨⟨shown.map (·.1), ?_, hdeclared, ?_⟩, fun r hr => ?_⟩
  · exact htext
  · rw [names_of_declared hdeclared]
    exact hsymbols
  · obtain ⟨s, -, hs⟩ := exists_right_of_forall₂ hshown hr
    exact ⟨s.2, hs.1⟩

namespace Blocks

theorem exists_block (hb : d.Blocks text shown) (hr : r ∈ d.declarations) :
    ∃ s ∈ shown, s.header = r.header ∧ r.body = .ok s.body := by
  obtain ⟨s, hs, hdeclared⟩ := exists_right_of_forall₂ hb.declared hr
  exact ⟨s, hs, Resource.declared_eq_ok_iff.mp hdeclared⟩

theorem count_symbols (hb : d.Blocks text shown) (hr : r ∈ d.declarations) :
    d.symbols.count r.name.text = 1 := by
  have hnodup := hb.symbols_nodup
  rw [names_of_declared hb.declared] at hnodup
  exact List.count_eq_one_of_mem hnodup
    (List.mem_append_right _ (List.mem_map.mpr ⟨r, hr, rfl⟩))

theorem filter_name (hb : d.Blocks text shown) {s : Declared} (hs : s ∈ shown) :
    shown.filter (fun t => t.header.name = s.header.name) = [s] := by
  have hnodup := (List.nodup_append.mp hb.symbols_nodup).2.1
  have hnames : (shown.map (·.header.name)).Nodup := by
    refine List.Nodup.of_map Name.text ?_
    rwa [List.map_map]
  exact filter_key_eq_singleton hnames hs

end Blocks

end Document

end BicepTemplates
