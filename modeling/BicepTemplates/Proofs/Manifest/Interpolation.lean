import BicepTemplates.Proofs.Expression.Paths
import BicepTemplates.Proofs.Expression.Templates
import BicepTemplates.Proofs.Manifest.Checks

/-! # Interpolated strings of manifests

The items of an interpolated string are strings and expressions in any order. Each expression is
kept, and the strings between two expressions make the literal between them, so literals and
expressions in turn give back the items up to the merging of adjacent strings. The counts always
fit: such a string only fails with the failure of one of its items.
-/

namespace BicepTemplates

open Yaml (Value)

namespace Interpolation

@[simp] def Part.isExpression : Part → Bool
  | .literal _ => false
  | .expression _ => true

def Part.isBlank : Part → Bool
  | .literal text => text.isEmpty
  | .expression _ => false

@[simp] theorem Part.isBlank_literal (text : String) :
    (Part.literal text).isBlank = text.isEmpty := rfl

@[simp] theorem Part.isBlank_expression (hole : Expr) :
    (Part.expression hole).isBlank = false := rfl

/-- The strings in front of the first expression, between two, and behind the last, each joined. -/
def gaps (parts : List Part) : List String :=
  (parts.splitOnP Part.isExpression).map fun strings =>
    String.join (strings.filterMap Part.literal?)

/-- Adjacent strings are merged, and empty ones left out. -/
def merged : List Part → List Part
  | [] => []
  | .expression hole :: rest => .expression hole :: merged rest
  | .literal text :: rest =>
    match merged rest with
    | .literal more :: rest => .literal (text ++ more) :: rest
    | rest => if text.isEmpty then rest else .literal text :: rest

/-- Literals and expressions in turn. -/
def inTurn : List String → List Expr → List Part
  | literal :: literals, hole :: holes =>
    .literal literal :: .expression hole :: inTurn literals holes
  | literals, [] => literals.map .literal
  | [], holes => holes.map .expression

section Gaps

variable {parts : List Part}

@[simp] theorem gaps_nil : gaps [] = [""] := by
  simp [gaps]

@[simp] theorem gaps_expression (hole : Expr) :
    gaps (.expression hole :: parts) = "" :: gaps parts := by
  simp [gaps, List.splitOnP_cons_eq_if_modifyHead]

@[simp] theorem gaps_literal (text : String) :
    gaps (.literal text :: parts) = (gaps parts).modifyHead (text ++ ·) := by
  simp only [gaps, List.splitOnP_cons_eq_if_modifyHead]
  cases hsplit : parts.splitOnP Part.isExpression with
  | nil => exact absurd hsplit (List.splitOnP_ne_nil _ _)
  | cons strings rest => simp

theorem exists_gaps_eq_cons (parts : List Part) : ∃ first rest, gaps parts = first :: rest := by
  refine List.exists_cons_of_ne_nil fun h => ?_
  exact List.splitOnP_ne_nil _ _ (List.map_eq_nil_iff.mp h)

theorem gaps_empty_literal (parts : List Part) : gaps (.literal "" :: parts) = gaps parts := by
  obtain ⟨first, rest, h⟩ := exists_gaps_eq_cons parts
  simp [h]

theorem length_gaps (parts : List Part) :
    (gaps parts).length = (parts.filterMap Part.expression?).length + 1 := by
  induction parts with
  | nil => simp
  | cons part parts ih =>
    cases part with
    | literal text => simp [ih, List.filterMap_cons]
    | expression hole => simp [ih]

theorem gaps_of_filterMap_eq_nil (h : parts.filterMap Part.expression? = []) :
    gaps parts = [String.join (parts.filterMap Part.literal?)] := by
  have hnone : ∀ part ∈ parts, part.isExpression = false := by
    intro part hpart
    have hpart := List.filterMap_eq_nil_iff.mp h part hpart
    cases part with
    | literal text => rfl
    | expression hole => cases hpart
  rw [gaps, List.splitOnP_eq_singleton hnone, List.map_singleton]

theorem exists_inTurn_eq_cons {literals : List String} {holes : List Expr}
    (h : literals.length = holes.length) :
    ∃ tail : List Part, (∀ text rest, tail.filter (!·.isBlank) ≠ .literal text :: rest) ∧
      ∀ literal, inTurn (literal :: literals) holes = .literal literal :: tail := by
  cases holes with
  | nil =>
    obtain rfl := List.length_eq_zero_iff.mp h
    exact ⟨[], nofun, fun _ => rfl⟩
  | cons hole holes =>
    refine ⟨.expression hole :: inTurn literals holes, ?_, fun _ => rfl⟩
    simp

theorem merged_literal {rest : List Part} (text : String) (h : merged parts = rest)
    (hrest : ∀ more tail, rest ≠ .literal more :: tail) :
    merged (.literal text :: parts) = [Part.literal text].filter (!·.isBlank) ++ rest := by
  rw [merged, h]
  split
  · next more tail => exact absurd rfl (hrest more tail)
  · by_cases htext : text = "" <;> simp [List.filter_cons, htext]

theorem filter_inTurn (parts : List Part) :
    (inTurn (gaps parts) (parts.filterMap Part.expression?)).filter (!·.isBlank) =
      merged parts := by
  induction parts with
  | nil => simp [inTurn, merged]
  | cons part parts ih =>
    cases part with
    | expression hole => simp [inTurn, merged, ih]
    | literal text =>
      obtain ⟨first, rest, hgaps⟩ := exists_gaps_eq_cons parts
      have hlength := length_gaps parts
      rw [hgaps, List.length_cons, Nat.add_right_cancel_iff] at hlength
      obtain ⟨tail, htail, hturn⟩ := exists_inTurn_eq_cons hlength
      rw [hgaps, hturn] at ih
      simp only [gaps_literal, hgaps, List.modifyHead_cons, List.filterMap_cons,
        Part.expression?, hturn]
      by_cases hfirst : first = ""
      · have hmerged : merged parts = tail.filter (!·.isBlank) := by simp [← ih, hfirst]
        rw [merged_literal text hmerged htail, hfirst, ← List.filter_append]
        simp
      · have hmerged : merged parts = .literal first :: tail.filter (!·.isBlank) := by
          simp [← ih, List.filter_cons, hfirst]
        simp [merged, hmerged, List.filter_cons, hfirst]

end Gaps

end Interpolation

open Interpolation (Part)

namespace Conversion

def part (place : Address) : Value → Conversion Part
  | .text s => .ok (.literal s)
  | v => do return .expression (← expression place v)

theorem part_of_ne {place : Address} {v : Value} (h : ∀ s, v ≠ .text s) :
    part place v = do return .expression (← expression place v) := by
  rw [part]
  exact h

/-- The items in order, each at its own address. -/
def itemParts (place : Address) (index : Nat) : List Value → Conversion (List Part)
  | [] => .ok []
  | v :: rest => do
    let p ← part (.item place index) v
    return p :: (← itemParts place (index + 1) rest)

/-- The pending literal goes in front of the parts that are still to come. -/
theorem segments_eq (place : Address) (items : List Value) (index : Nat) (literal : String)
    (b : Interpolation) : segments place index literal b items = do
      let parts ← itemParts place index items
      return ⟨b.literals ++ Interpolation.gaps (.literal literal :: parts),
        b.expressions ++ parts.filterMap Part.expression?⟩ := by
  induction items generalizing index literal b with
  | nil =>
    rw [segments, itemParts]
    simp [Interpolation.literal]
  | cons v items ih =>
    rw [itemParts]
    by_cases hv : ∃ s, v = .text s
    · obtain ⟨s, rfl⟩ := hv
      rw [segments, ih, part]
      cases itemParts place (index + 1) items with
      | error e => rfl
      | ok parts =>
        refine congrArg Except.ok ?_
        simp [Function.comp_def, String.append_assoc, List.filterMap_cons]
    · have hne : ∀ s, v ≠ .text s := fun s hs => hv ⟨s, hs⟩
      rw [segments_cons hne, part_of_ne hne]
      cases expression (.item place index) v with
      | error e => rfl
      | ok e =>
        refine (ih (index + 1) "" _).trans ?_
        cases itemParts place (index + 1) items with
        | error e => rfl
        | ok parts =>
          refine congrArg Except.ok ?_
          rw [Interpolation.gaps_empty_literal]
          simp [Interpolation.literal, Interpolation.expression]

theorem expression_interpolate (place : Address) (items : List Value) :
    expression place (.tagged "interpolate" (.seq items)) =
      itemParts place 0 items >>= fun parts => expressed (Interpolation.build
        ⟨Interpolation.gaps parts, parts.filterMap Part.expression?⟩) := by
  rw [expression, segments_eq]
  cases itemParts place 0 items with
  | error e => rfl
  | ok parts =>
    have hgaps := Interpolation.gaps_empty_literal parts
    simp only [bind, Except.bind, pure, Except.pure, hgaps, List.nil_append]

theorem error?_ne_segmentMismatch (c : Check) (m n : Nat) :
    c.error? ≠ some (.engine (.expression (.segmentMismatch m n))) := by
  intro h
  cases c with
  | name text =>
    obtain ⟨cause, -, h⟩ := mapError_eq_error_iff.mp (failure?_eq_some_iff.mp h)
    cases h
  | path text =>
    obtain ⟨cause, hcause, h⟩ := mapError_eq_error_iff.mp (failure?_eq_some_iff.mp h)
    cases h
    rcases Expr.ofPath_eq_error_iff.mp hcause with ⟨-, h⟩ | ⟨-, piece, -, h⟩
    · cases h
    · cases h
  | value place v =>
    obtain ⟨misfit, -, h⟩ := Option.map_eq_some_iff.mp h
    cases h
  | key place key =>
    rw [Check.error?, Option.ite_none_left_eq_some] at h
    cases h.2
  | tag place tag =>
    rw [Check.error?, Option.ite_none_left_eq_some] at h
    cases h.2
  | arguments place v =>
    rw [Check.error?, Option.ite_none_left_eq_some] at h
    cases h.2

theorem expression_ne_segmentMismatch (place : Address) (v : Value) (m n : Nat) :
    expression place v ≠ .error (.engine (.expression (.segmentMismatch m n))) := by
  intro h
  have hfirst := decided_expression v place
  rw [Decided, h, failure?] at hfirst
  obtain ⟨c, -, hc⟩ := List.exists_of_findSome?_eq_some hfirst.symm
  exact error?_ne_segmentMismatch c m n hc

/-- An interpolated string never fails for its counts, only with its items. Of plain strings it is
the string they make together. Otherwise it has the expressions of the items, with the strings
between two of them as the literal there, and in turn they are the items with adjacent strings
merged. -/
theorem interpolate_keeps_items (place : Address) (items : List Value) :
    (∀ m n, expression place (.tagged "interpolate" (.seq items)) ≠
      .error (.engine (.expression (.segmentMismatch m n)))) ∧
    (∀ e, itemParts place 0 items = .error e →
      expression place (.tagged "interpolate" (.seq items)) = .error e) ∧
    ∀ parts, itemParts place 0 items = .ok parts →
      (parts.filterMap Part.expression? = [] →
        expression place (.tagged "interpolate" (.seq items)) =
          .ok (.text (String.join (parts.filterMap Part.literal?)))) ∧
      (parts.filterMap Part.expression? ≠ [] →
        ∃ e b, expression place (.tagged "interpolate" (.seq items)) = .ok e ∧
          e.interpolation? = some b ∧ b.expressions = parts.filterMap Part.expression? ∧
          b.literals = Interpolation.gaps parts ∧
          (Interpolation.inTurn b.literals b.expressions).filter (!·.isBlank) =
            Interpolation.merged parts) := by
  refine ⟨expression_ne_segmentMismatch place _, fun e he => ?_, fun parts hparts => ?_⟩
  · rw [expression_interpolate, he]
    rfl
  · rw [expression_interpolate, hparts]
    constructor
    · intro hnone
      refine mapError_eq_ok_iff.mpr ?_
      rw [hnone, Interpolation.gaps_of_filterMap_eq_nil hnone, Interpolation.build_nil]
      simp [String.join]
    · intro hsome
      obtain ⟨e, he, hb⟩ :=
        Interpolation.build_of_length_eq_succ hsome (Interpolation.length_gaps parts)
      refine ⟨e, _, ?_, hb, rfl, rfl, Interpolation.filter_inTurn parts⟩
      exact mapError_eq_ok_iff.mpr he

/-- Strings side by side make one literal, expressions side by side have an empty one between. -/
theorem interpolate_keeps_items_adjacent :
    let items : List Value := [.tagged "ref" (.text "x"), .tagged "ref" (.text "y"), .text "a",
      .text "b"]
    itemParts (.resource "a") 0 items = .ok [.expression (.symbol "x"), .expression (.symbol "y"),
        .literal "a", .literal "b"] ∧
      ∃ e b, expression (.resource "a") (.tagged "interpolate" (.seq items)) = .ok e ∧
        e.interpolation? = some b ∧ b.expressions = [.symbol "x", .symbol "y"] ∧
        b.literals = ["", "", "ab"] := by
  intro items
  have hparts : itemParts (.resource "a") 0 items = .ok [.expression (.symbol "x"),
      .expression (.symbol "y"), .literal "a", .literal "b"] := rfl
  obtain ⟨e, b, he, hb, hholes, hliterals, -⟩ :=
    ((interpolate_keeps_items (.resource "a") items).2.2 _ hparts).2 (List.cons_ne_nil _ _)
  exact ⟨hparts, e, b, he, hb, hholes, hliterals.trans (by simp)⟩

end Conversion

end BicepTemplates
