import BicepTemplates.Proofs.Expression.Building

/-! # Interpolated strings from their parts

Literals and expressions are added one by one, in any order, and their counts alone decide what is
built from them. An interpolated string has all that was added, with an empty literal at the end if
one is missing. In every expression, each interpolated string has one literal more than it has
expressions, so that writing them in turn starts with a literal and leaves nothing out.
-/

namespace BicepTemplates

namespace Interpolation

/-- What is added in one step. -/
inductive Part where
  | literal (text : String)
  | expression (hole : Expr)

@[simp] def Part.literal? : Part → Option String
  | .literal text => some text
  | .expression _ => none

@[simp] def Part.expression? : Part → Option Expr
  | .literal _ => none
  | .expression hole => some hole

def add (b : Interpolation) : Part → Interpolation
  | .literal text => b.literal text
  | .expression hole => b.expression hole

def ofParts (parts : List Part) : Interpolation :=
  parts.foldl add {}

/-- The first literal, and then each expression with the literal that goes with it. There is no
text without a first literal, and what has nothing to go with is not written. -/
def chars? (b : Interpolation) : Option (List Char) :=
  b.literals.head?.map fun first =>
    '\'' :: Quoted.escape first.toList ++
      (b.expressions.zip b.literals.tail).flatMap (fun (hole, literal) =>
        '$' :: '{' :: hole.chars ++ '}' :: Quoted.escape literal.toList) ++ ['\'']

end Interpolation

def Expr.interpolation? : Expr → Option Interpolation
  | .interpolation first hole rest => some ⟨first :: rest.literals, hole :: rest.expressions⟩
  | _ => none

mutual

/-- All interpolated strings in the expression, itself included. -/
def Expr.interpolations : Expr → List Interpolation
  | .text _ => []
  | .int _ => []
  | .bool _ => []
  | .symbol _ => []
  | .call _ args => argsInterpolations args
  | .member base _ => base.interpolations
  | .interpolation first hole rest =>
    ⟨first :: rest.literals, hole :: rest.expressions⟩ ::
      (hole.interpolations ++ rest.interpolations)

def argsInterpolations : List Expr → List Interpolation
  | [] => []
  | arg :: rest => arg.interpolations ++ argsInterpolations rest

def Segments.interpolations : Segments → List Interpolation
  | .last _ => []
  | .next _ hole rest => hole.interpolations ++ rest.interpolations

end

theorem Expr.length_literals {e : Expr} {b : Interpolation} (h : e.interpolation? = some b) :
    b.literals.length = b.expressions.length + 1 ∧ b.expressions ≠ [] := by
  cases e with
  | interpolation first hole rest =>
    obtain rfl := Option.some.inj h
    exact ⟨(Segments.next first hole rest).length_literals, List.cons_ne_nil _ _⟩
  | _ => cases h

theorem Segments.exists_literals_eq_cons (s : Segments) :
    ∃ first more, s.literals = first :: more := by
  cases s with
  | last literal => exact ⟨literal, [], rfl⟩
  | next literal hole rest => exact ⟨literal, rest.literals, rfl⟩

namespace Interpolation

section Build

variable {literals : List String} {holes : List Expr}

theorem foldl_add (parts : List Part) (b : Interpolation) :
    parts.foldl add b = ⟨b.literals ++ parts.filterMap Part.literal?,
      b.expressions ++ parts.filterMap Part.expression?⟩ := by
  induction parts generalizing b with
  | nil => simp
  | cons part parts ih =>
    rw [List.foldl_cons, ih]
    cases part with
    | literal text => simp [add, literal, List.filterMap_cons]
    | expression hole => simp [add, expression, List.filterMap_cons]

theorem ofParts_eq (parts : List Part) : ofParts parts =
    ⟨parts.filterMap Part.literal?, parts.filterMap Part.expression?⟩ :=
  foldl_add parts {}

theorem build_nil (literals : List String) :
    build ⟨literals, []⟩ = .ok (.text (String.join literals)) := by
  cases literals <;> rfl

theorem exists_build_interpolation (hliterals : literals ≠ []) (hholes : holes ≠ [])
    (h : literals.length = holes.length ∨ literals.length = holes.length + 1) :
    ∃ e all, build ⟨literals, holes⟩ = .ok e ∧ e.interpolation? = some ⟨all, holes⟩ ∧
      (all = literals ∨ all = literals ++ [""]) := by
  obtain ⟨first, literals, rfl⟩ := List.exists_cons_of_ne_nil hliterals
  obtain ⟨hole, holes, rfl⟩ := List.exists_cons_of_ne_nil hholes
  obtain ⟨s, hs⟩ := exists_zip?_iff.mpr (h.imp Nat.succ.inj Nat.succ.inj)
  have hbuild : build ⟨first :: literals, hole :: holes⟩ = .ok (.interpolation first hole s) := by
    simp only [build, hs]
  obtain ⟨rfl, hliterals⟩ := eq_of_zip? hs
  refine ⟨_, _, hbuild, rfl, ?_⟩
  exact hliterals.imp (congrArg (first :: ·)) (congrArg (first :: ·))

theorem build_of_length_eq (hliterals : literals ≠ []) (hholes : holes ≠ [])
    (h : literals.length = holes.length) :
    ∃ e, build ⟨literals, holes⟩ = .ok e ∧
      e.interpolation? = some ⟨literals ++ [""], holes⟩ := by
  obtain ⟨e, all, he, hall, rfl | rfl⟩ := exists_build_interpolation hliterals hholes (.inl h)
  · exact absurd (h.symm.trans (Expr.length_literals hall).1) (Nat.ne_of_lt (Nat.lt_succ_self _))
  · exact ⟨e, he, hall⟩

theorem build_of_length_eq_succ (hholes : holes ≠ []) (h : literals.length = holes.length + 1) :
    ∃ e, build ⟨literals, holes⟩ = .ok e ∧ e.interpolation? = some ⟨literals, holes⟩ := by
  have hliterals := List.ne_nil_of_length_eq_add_one h
  obtain ⟨e, all, he, hall, rfl | rfl⟩ := exists_build_interpolation hliterals hholes (.inr h)
  · exact ⟨e, he, hall⟩
  · have hlength := (Expr.length_literals hall).1
    simp [h] at hlength

theorem build_eq_error (hliterals : literals ≠ []) (hholes : holes ≠ [])
    (heq : literals.length ≠ holes.length) (hsucc : literals.length ≠ holes.length + 1) :
    build ⟨literals, holes⟩ = .error (.segmentMismatch literals.length holes.length) := by
  obtain ⟨first, literals, rfl⟩ := List.exists_cons_of_ne_nil hliterals
  obtain ⟨hole, holes, rfl⟩ := List.exists_cons_of_ne_nil hholes
  have hnone : Segments.zip? literals holes = none := by
    refine Option.eq_none_iff_forall_ne_some.mpr fun s hs => ?_
    rcases exists_zip?_iff.mp ⟨s, hs⟩ with h | h
    · exact heq (congrArg Nat.succ h)
    · exact hsucc (congrArg Nat.succ h)
  simp only [build, hnone]

end Build

end Interpolation

section Writing

theorem Segments.chars?_eq : ∀ s : Segments,
    (⟨s.literals, s.expressions⟩ : Interpolation).chars? = some ('\'' :: s.chars)
  | .last literal => by simp [Interpolation.chars?, literals, expressions, chars]
  | .next literal hole rest => by
    obtain ⟨first, more, hfirst⟩ := rest.exists_literals_eq_cons
    have hrest := rest.chars?_eq
    simp only [Interpolation.chars?, hfirst, List.head?_cons, Option.map_some, List.tail_cons,
      Option.some.injEq, List.cons_append, List.cons.injEq, true_and] at hrest
    simp [Interpolation.chars?, literals, expressions, chars, hfirst, ← hrest]

theorem Expr.chars?_eq {e : Expr} {b : Interpolation} (h : e.interpolation? = some b) :
    b.chars? = some e.chars := by
  cases e with
  | interpolation first hole rest =>
    obtain rfl := Option.some.inj h
    exact (Segments.next first hole rest).chars?_eq
  | _ => cases h

theorem argsChars_infix_moreArgsChars (args : List Expr) :
    argsChars args <:+: moreArgsChars args := by
  cases args with
  | nil => exact List.infix_refl _
  | cons arg rest => exact List.infix_cons (List.infix_refl _)

theorem Segments.hole_infix_next (literal : String) (hole : Expr) (rest : Segments) :
    hole.chars <:+: (Segments.next literal hole rest).chars :=
  ⟨Quoted.escape literal.toList ++ ['$', '{'], '}' :: rest.chars, by simp [chars]⟩

theorem Segments.rest_infix_next (literal : String) (hole : Expr) (rest : Segments) :
    rest.chars <:+: (Segments.next literal hole rest).chars :=
  ⟨Quoted.escape literal.toList ++ '$' :: '{' :: hole.chars ++ ['}'], [], by simp [chars]⟩

theorem Expr.segments_infix_interpolation (first : String) (hole : Expr) (rest : Segments) :
    (Segments.next first hole rest).chars <:+: (Expr.interpolation first hole rest).chars :=
  List.infix_cons (List.infix_refl _)

mutual

theorem Expr.exists_of_mem_interpolations : ∀ (e : Expr) {b : Interpolation},
    b ∈ e.interpolations →
      ∃ inner : Expr, inner.interpolation? = some b ∧ inner.chars <:+: e.chars
  | .text _, _, h => nomatch h
  | .int _, _, h => nomatch h
  | .bool _, _, h => nomatch h
  | .symbol _, _, h => nomatch h
  | .call name args, _, h => by
    obtain ⟨inner, hinner, hchars⟩ := exists_of_mem_argsInterpolations args h
    refine ⟨inner, hinner, hchars.trans ⟨name.toList ++ ['('], [')'], ?_⟩⟩
    simp [Expr.chars]
  | .member base name, _, h => by
    obtain ⟨inner, hinner, hchars⟩ := base.exists_of_mem_interpolations h
    exact ⟨inner, hinner, hchars.trans ⟨[], '.' :: name.toList, rfl⟩⟩
  | .interpolation first hole rest, _, h => by
    rcases List.mem_cons.mp h with rfl | h
    · exact ⟨_, rfl, List.infix_refl _⟩
    have hsegments := Expr.segments_infix_interpolation first hole rest
    rcases List.mem_append.mp h with h | h
    · obtain ⟨inner, hinner, hchars⟩ := hole.exists_of_mem_interpolations h
      exact ⟨inner, hinner, (hchars.trans (Segments.hole_infix_next _ _ _)).trans hsegments⟩
    · obtain ⟨inner, hinner, hchars⟩ := rest.exists_of_mem_interpolations h
      exact ⟨inner, hinner, (hchars.trans (Segments.rest_infix_next _ _ _)).trans hsegments⟩

theorem exists_of_mem_argsInterpolations : ∀ (args : List Expr) {b : Interpolation},
    b ∈ argsInterpolations args →
      ∃ inner : Expr, inner.interpolation? = some b ∧ inner.chars <:+: argsChars args
  | [], _, h => nomatch h
  | arg :: rest, _, h => by
    rcases List.mem_append.mp h with h | h
    · obtain ⟨inner, hinner, hchars⟩ := arg.exists_of_mem_interpolations h
      exact ⟨inner, hinner, hchars.trans ⟨[], moreArgsChars rest, rfl⟩⟩
    · obtain ⟨inner, hinner, hchars⟩ := exists_of_mem_argsInterpolations rest h
      refine ⟨inner, hinner, (hchars.trans (argsChars_infix_moreArgsChars rest)).trans ?_⟩
      exact ⟨arg.chars, [], List.append_nil _⟩

theorem Segments.exists_of_mem_interpolations : ∀ (s : Segments) {b : Interpolation},
    b ∈ s.interpolations →
      ∃ inner : Expr, inner.interpolation? = some b ∧ inner.chars <:+: s.chars
  | .last _, _, h => nomatch h
  | .next literal hole rest, _, h => by
    rcases List.mem_append.mp h with h | h
    · obtain ⟨inner, hinner, hchars⟩ := hole.exists_of_mem_interpolations h
      exact ⟨inner, hinner, hchars.trans (Segments.hole_infix_next _ _ _)⟩
    · obtain ⟨inner, hinner, hchars⟩ := rest.exists_of_mem_interpolations h
      exact ⟨inner, hinner, hchars.trans (Segments.rest_infix_next _ _ _)⟩

end

end Writing

namespace Interpolation

/-- What is built depends on how many literals and expressions were added. However an expression
was made, its interpolated strings have a first literal and one more for each expression, and they
are written with all of both. -/
theorem build_ofParts :
    (∀ parts : List Part,
      let literals := parts.filterMap Part.literal?
      let holes := parts.filterMap Part.expression?
      let built := (ofParts parts).build
      (holes = [] → built = .ok (.text (String.join literals))) ∧
      (∀ hole more, literals = [] → holes = hole :: more → built = .ok hole) ∧
      (literals ≠ [] → holes ≠ [] → literals.length = holes.length →
        ∃ e, built = .ok e ∧ e.interpolation? = some ⟨literals ++ [""], holes⟩) ∧
      (literals ≠ [] → holes ≠ [] → literals.length = holes.length + 1 →
        ∃ e, built = .ok e ∧ e.interpolation? = some ⟨literals, holes⟩) ∧
      (literals ≠ [] → holes ≠ [] → literals.length ≠ holes.length →
        literals.length ≠ holes.length + 1 →
        built = .error (.segmentMismatch literals.length holes.length))) ∧
    ∀ e : Expr, ∀ b ∈ e.interpolations,
      b.literals.length = b.expressions.length + 1 ∧ b.expressions ≠ [] ∧
        (b.expressions.zip b.literals.tail).unzip = (b.expressions, b.literals.tail) ∧
        ∃ inner : Expr, inner.interpolation? = some b ∧ b.chars? = some inner.chars ∧
          inner.chars <:+: e.chars := by
  constructor
  · intro parts
    simp only [ofParts_eq]
    refine ⟨fun hholes => ?_, fun hole more hliterals hholes => ?_, build_of_length_eq,
      fun _ => build_of_length_eq_succ, build_eq_error⟩
    · rw [hholes, build_nil]
    · rw [hliterals, hholes]
      rfl
  · intro e b hb
    obtain ⟨inner, hinner, hchars⟩ := e.exists_of_mem_interpolations hb
    obtain ⟨hlength, hne⟩ := Expr.length_literals hinner
    have htail : b.expressions.length = b.literals.tail.length := by
      rw [List.length_tail, hlength, Nat.add_sub_cancel]
    refine ⟨hlength, hne, List.unzip_zip htail, ?_⟩
    exact ⟨inner, hinner, Expr.chars?_eq hinner, hchars⟩

/-- Two literals do for two expressions, but not one literal for three. -/
theorem build_ofParts_repaired :
    (∃ e, (ofParts [.literal "a", .expression (.symbol "x"), .expression (.symbol "y"),
        .literal "b"]).build = .ok e ∧
      e.interpolation? = some ⟨["a", "b", ""], [.symbol "x", .symbol "y"]⟩) ∧
    (ofParts [.expression (.symbol "x"), .expression (.symbol "y"), .literal "a",
      .expression (.symbol "z")]).build = .error (.segmentMismatch 1 3) ∧
    ∃ inner : Expr, inner.interpolation? = some ⟨["a", ""], [.symbol "x"]⟩ ∧
      (⟨["a", ""], [.symbol "x"]⟩ : Interpolation).chars? = some inner.chars ∧
      inner.chars <:+: (Expr.call "f" [.interpolation "a" (.symbol "x") (.last "")]).chars := by
  refine ⟨?_, ?_, ?_⟩
  · exact (build_ofParts.1 _).2.2.1 (List.cons_ne_nil _ _) (List.cons_ne_nil _ _) rfl
  · exact (build_ofParts.1 _).2.2.2.2 (List.cons_ne_nil _ _) (List.cons_ne_nil _ _)
      (by decide) (by decide)
  · exact (build_ofParts.2 _ _ (List.mem_append_left _ List.mem_cons_self)).2.2.2

end Interpolation

end BicepTemplates
