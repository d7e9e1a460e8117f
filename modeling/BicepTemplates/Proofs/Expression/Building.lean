import BicepTemplates.ScopePath

/-! # When interpolated strings are built

Building fails only if the literals are neither as many as the expressions nor one more, although
there are some of both. A scope path adds a literal and an expression for each of its links and is
therefore always resolved.
-/

namespace BicepTemplates

section Interpolations

variable {literals : List String} {holes : List Expr}

/-- Literals and expressions alternate, starting with a literal. -/
theorem exists_zip?_iff : (∃ s, Segments.zip? literals holes = some s) ↔
    literals.length = holes.length ∨ literals.length = holes.length + 1 := by
  induction literals generalizing holes with
  | nil =>
    cases holes with
    | nil => simp [Segments.zip?]
    | cons hole holes => simp [Segments.zip?]
  | cons literal literals ih =>
    cases holes with
    | nil =>
      cases literals with
      | nil => simp [Segments.zip?]
      | cons literal' literals => simp [Segments.zip?]
    | cons hole holes =>
      simp only [Segments.zip?, Option.map_eq_some_iff, List.length_cons, Nat.add_right_cancel_iff,
        ← ih]
      constructor
      · rintro ⟨_, s, hs, -⟩
        exact ⟨s, hs⟩
      · rintro ⟨s, hs⟩
        exact ⟨_, s, hs, rfl⟩

theorem eq_of_zip? {s : Segments} (h : Segments.zip? literals holes = some s) :
    s.expressions = holes ∧ (s.literals = literals ∨ s.literals = literals ++ [""]) := by
  fun_induction Segments.zip? literals holes generalizing s with
  | case1 =>
    obtain rfl := Option.some.inj h
    exact ⟨rfl, .inr rfl⟩
  | case2 literal =>
    obtain rfl := Option.some.inj h
    exact ⟨rfl, .inl rfl⟩
  | case3 literal literals hole holes ih =>
    obtain ⟨rest, hrest, rfl⟩ := Option.map_eq_some_iff.mp h
    obtain ⟨hholes, hliterals⟩ := ih hrest
    refine ⟨by rw [Segments.expressions, hholes], ?_⟩
    rw [Segments.literals, List.cons_append, List.cons.injEq, List.cons.injEq]
    exact hliterals.imp (⟨rfl, ·⟩) (⟨rfl, ·⟩)
  | case4 => cases h

/-- The counts of an unfinished string, which ends in an expression, or of a finished one. -/
theorem Interpolation.exists_build {b : Interpolation}
    (h : b.literals.length = b.expressions.length ∨
      b.literals.length = b.expressions.length + 1) : ∃ e, b.build = .ok e := by
  obtain ⟨literals, holes⟩ := b
  cases holes with
  | nil => exact ⟨_, rfl⟩
  | cons hole holes =>
    cases literals with
    | nil => exact ⟨_, rfl⟩
    | cons first literals =>
      simp only [List.length_cons, Nat.add_right_cancel_iff] at h
      obtain ⟨s, hs⟩ := exists_zip?_iff.mpr h
      exact ⟨.interpolation first hole s, by simp only [build, hs]⟩

end Interpolations

namespace ScopePath

theorem length_foldl_addLink (links : List ScopeLink) {b : Interpolation}
    (h : b.literals.length = b.expressions.length) :
    (links.foldl addLink b).literals.length = (links.foldl addLink b).expressions.length := by
  induction links generalizing b with
  | nil => exact h
  | cons l links ih =>
    refine ih ?_
    simp [addLink, Interpolation.literal, Interpolation.expression, h]

theorem exists_resolve (p : ScopePath) : ∃ e, p.resolve = .ok e := by
  unfold resolve
  split
  · exact ⟨_, rfl⟩
  · exact Interpolation.exists_build (.inl (length_foldl_addLink _ rfl))

end ScopePath

end BicepTemplates
