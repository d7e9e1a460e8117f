import BicepTemplates.Proofs.Expression.Paths
import BicepTemplates.Proofs.Manifest.Rendering

/-! # Declared names as symbols

A declared name may start with a digit, and a path may not. So the names that paths can refer to
are those that start with a letter or an underscore, and no such name is spelled like a number. Of
the other names, those that are the decimal form of an integer literal render like it.
-/

namespace BicepTemplates

open Conversion

namespace Name

/-- A declared name that no path refers to. -/
def startsWithDigit (n : Name) : Bool :=
  n.text.toList.head?.any Char.isDigit

section Paths

variable {n : Name}

theorem exists_cons (n : Name) : ∃ c rest, n.text.toList = c :: rest := by
  have hvalid := n.valid
  simp only [isName, Bool.and_eq_true, Bool.not_eq_true', List.isEmpty_eq_false_iff] at hvalid
  exact List.exists_cons_of_ne_nil hvalid.1

theorem isIdentifier_text (n : Name) : isIdentifier n.text = !n.startsWithDigit := by
  obtain ⟨c, rest, htext⟩ := n.exists_cons
  have hword := n.isWordChar_of_mem
  rw [htext] at hword
  obtain ⟨hc, hrest⟩ := List.forall_mem_cons.mp hword
  have hfirst : (c.isAlpha || c == '_') = !c.isDigit := by
    cases halpha : c.isAlpha with
    | true => rw [isDigit_eq_false_of_isAlpha halpha]; rfl
    | false =>
      cases hdigit : c.isDigit with
      | true =>
        have hne : c ≠ '_' := by
          rintro rfl
          exact absurd hdigit (by decide)
        simp [hne]
      | false => simpa [isWordChar, Char.isAlphanum, halpha, hdigit] using hc
  rw [isIdentifier, startsWithDigit, htext, isIdentifierWord, hfirst, List.all_eq_true.mpr hrest,
    Bool.and_true]
  rfl

/-- A name is a path of one piece, so the whole of it is read or refused. -/
theorem ofPath_text (n : Name) :
    Expr.ofPath n.text =
      if isIdentifier n.text then .ok n.reference
      else .error (.invalidPathSegment n.text n.text) := by
  obtain ⟨c, rest, htext⟩ := n.exists_cons
  have hblank : n.text.toList.all Blank.isBlank = false := by
    have hc : Blank.isBlank c = false :=
      isBlank_eq_false_of_isWordChar (n.isWordChar_of_mem c (htext ▸ List.mem_cons_self))
    rw [htext, List.all_cons, hc, Bool.false_and]
  have hsplit : n.text.toList.splitOn '.' = [n.text.toList] := by
    have hdot : '.' ∉ n.text.toList :=
      fun hm => absurd (n.isWordChar_of_mem '.' hm) (by decide)
    have hpieces : (n.text.toList ++ [].flatMap ('.' :: ·)).splitOn '.' = [n.text.toList] :=
      splitOn_append_flatMap hdot (List.forall_mem_nil _)
    rwa [List.flatMap_nil, List.append_nil] at hpieces
  rw [Expr.ofPath_of_splitOn hblank hsplit]
  by_cases hword : isIdentifier n.text = true
  · have hhead := Expr.ofHead?_eq_some_iff.mpr (.inl ⟨hword, rfl⟩)
    rw [hhead, if_pos hword, String.ofList_toList]
    rfl
  · have hhead : Expr.ofHead? n.text.toList = none := by
      rw [Option.eq_none_iff_forall_ne_some]
      intro e he
      rcases Expr.ofHead?_eq_some_iff.mp he with ⟨h, -⟩ | ⟨function, h, -, -⟩
      · exact hword h
      · have hparen : '(' ∈ n.text.toList := by
          rw [h]
          simp
        exact absurd (n.isWordChar_of_mem '(' hparen) (by decide)
    rw [hhead, if_neg hword, String.ofList_toList]

theorem ofPath_of_not_startsWithDigit (h : n.startsWithDigit = false) :
    Expr.ofPath n.text = .ok n.reference := by
  rw [ofPath_text, isIdentifier_text, h]
  rfl

theorem ofPath_of_startsWithDigit (h : n.startsWithDigit = true) :
    Expr.ofPath n.text = .error (.invalidPathSegment n.text n.text) := by
  rw [ofPath_text, isIdentifier_text, h]
  rfl

end Paths

section Literals

variable {n : Name} {i : Int}

theorem render_reference (n : Name) : n.reference.render = n.text :=
  String.ofList_toList

theorem isLiteral_natCast {k : Nat} : isLiteral k = true ↔ k < 0x8000000000000000 := by
  rw [isLiteral, Bool.and_eq_true, decide_eq_true_eq, decide_eq_true_eq]
  omega

theorem reference_renders_int_iff :
    n.reference.render = (Expr.int i).render ↔ ∃ k : Nat, i = k ∧ n.text = k.repr := by
  -- no name has a minus sign, so the number is not negative
  rw [render_reference]
  constructor
  · intro h
    cases i with
    | ofNat k => exact ⟨k, rfl, h⟩
    | negSucc k =>
      have hminus : '-' ∈ n.text.toList := by
        rw [h, Expr.render, String.toList_ofList]
        exact List.mem_cons_self
      exact absurd (n.isWordChar_of_mem '-' hminus) (by decide)
  · rintro ⟨k, rfl, h⟩
    exact h

theorem reference_renders_literal_iff :
    (∃ i, isLiteral i = true ∧ n.reference.render = (Expr.int i).render) ↔
      ∃ k : Nat, k < 0x8000000000000000 ∧ n.text = k.repr := by
  constructor
  · rintro ⟨i, hi, hrender⟩
    obtain ⟨k, rfl, htext⟩ := reference_renders_int_iff.mp hrender
    exact ⟨k, isLiteral_natCast.mp hi, htext⟩
  · rintro ⟨k, hk, htext⟩
    exact ⟨k, isLiteral_natCast.mpr hk, reference_renders_int_iff.mpr ⟨k, rfl, htext⟩⟩

theorem startsWithDigit_of_eq_repr {k : Nat} (h : n.text = k.repr) : n.startsWithDigit = true := by
  obtain ⟨c, rest, htext⟩ := n.exists_cons
  have hc : c ∈ Nat.toDigits 10 k := by
    have hdigits : k.repr.toList = Nat.toDigits 10 k := String.toList_ofList
    rw [← hdigits, ← h, htext]
    exact List.mem_cons_self
  rw [startsWithDigit, htext]
  exact Nat.isDigit_of_mem_toDigits (by decide) (by decide) hc

theorem reference_renders_bool_iff {b : Bool} :
    n.reference.render = (Expr.bool b).render ↔ n.text = if b then "true" else "false" := by
  rw [render_reference]
  cases b <;> rfl

end Literals

/-- A name that does not start with a digit is referred to by its own text, in a reference and in
an output, and renders unlike every number. Any other name is refused in both places, and renders
like an integer literal if it is the decimal form of a number of its range. Only two names render
like truth values. -/
theorem reference_exact (s : String) (n : Name) (h : ofString s = .ok n) :
    (n.startsWithDigit = false →
      Expr.ofPath s = .ok n.reference ∧
      (∀ place, expression place (.tagged "ref" (.text s)) = .ok n.reference) ∧
      (∀ (m : Name) (type : ValueType),
        output ⟨m.text, type, s⟩ = .ok { name := m, type, value := n.reference }) ∧
      ∀ i, n.reference.render ≠ (Expr.int i).render) ∧
    (n.startsWithDigit = true →
      Expr.ofPath s = .error (.invalidPathSegment s s) ∧
      (∀ place, expression place (.tagged "ref" (.text s)) =
        .error (.engine (.expression (.invalidPathSegment s s)))) ∧
      ∀ (name : String) (type : ValueType), output ⟨name, type, s⟩ =
        .error (.engine (.expression (.invalidPathSegment s s)))) ∧
    (∀ i, isLiteral i = true →
      (n.reference.render = (Expr.int i).render ↔ ∃ k : Nat, i = k ∧ s = k.repr)) ∧
    ((∃ i, isLiteral i = true ∧ n.reference.render = (Expr.int i).render) ↔
      ∃ k : Nat, k < 0x8000000000000000 ∧ s = k.repr) ∧
    ∀ b, n.reference.render = (Expr.bool b).render ↔ s = if b then "true" else "false" := by
  obtain rfl := text_of_ofString h
  have href : ∀ place, expression place (.tagged "ref" (.text n.text)) =
      expressed (Expr.ofPath n.text) := fun _ => rfl
  refine ⟨fun hdigit => ?_, fun hdigit => ?_, fun i _ => reference_renders_int_iff,
    reference_renders_literal_iff, fun b => reference_renders_bool_iff⟩
  · have hpath := ofPath_of_not_startsWithDigit hdigit
    refine ⟨hpath, fun place => ?_, fun m type => ?_, fun i hrender => ?_⟩
    · rw [href, hpath]
      rfl
    · rw [output, hpath, ofString_text]
      rfl
    · obtain ⟨k, -, htext⟩ := reference_renders_int_iff.mp hrender
      rw [startsWithDigit_of_eq_repr htext] at hdigit
      cases hdigit
  · have hpath := ofPath_of_startsWithDigit hdigit
    refine ⟨hpath, fun place => ?_, fun name type => ?_⟩
    · rw [href, hpath]
      rfl
    · rw [output, hpath]
      rfl

theorem reference_exact_storage :
    ofString "storage_1" = .ok ⟨"storage_1", rfl⟩ ∧
      startsWithDigit ⟨"storage_1", rfl⟩ = false ∧
      expression (.parameterDefault "account") (.tagged "ref" (.text "storage_1")) =
        .ok (.symbol "storage_1") ∧
      ofString "2fa" = .ok ⟨"2fa", rfl⟩ ∧ startsWithDigit ⟨"2fa", rfl⟩ = true ∧
      output ⟨"code", .string, "2fa"⟩ =
        .error (.engine (.expression (.invalidPathSegment "2fa" "2fa"))) :=
  ⟨rfl, by decide, ((reference_exact "storage_1" _ rfl).1 (by decide)).2.1 _, rfl, by decide,
    ((reference_exact "2fa" _ rfl).2.1 (by decide)).2.2 "code" .string⟩

/-- There are names that no path refers to, and names that render like a number or a truth
value. -/
theorem reference_not_path :
    (ofString "2fa" = .ok ⟨"2fa", rfl⟩ ∧
      Expr.ofPath "2fa" = .error (.invalidPathSegment "2fa" "2fa")) ∧
    (ofString "42" = .ok ⟨"42", rfl⟩ ∧
      (reference ⟨"42", rfl⟩).render = (Expr.int 42).render) ∧
    ofString "true" = .ok ⟨"true", rfl⟩ ∧
      (reference ⟨"true", rfl⟩).render = (Expr.bool true).render :=
  ⟨⟨rfl, by rfl⟩, ⟨rfl, by decide⟩, rfl, by decide⟩

end Name

end BicepTemplates
