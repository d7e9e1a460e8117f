import BicepTemplates.Expression.Interpolation
import BicepTemplates.Text.Identifier

/-! # Well-formed expressions

An expression is well formed if all its names are identifiers and no symbol is spelled like a
truth value. Interpolated strings need no condition of their own: they are exactly what building
from literals and expressions yields.
-/

namespace BicepTemplates

mutual

def Expr.isWellFormed : Expr → Bool
  | .text _ => true
  | .int _ => true
  | .bool _ => true
  | .symbol name => isIdentifier name && name != "true" && name != "false"
  | .call name args => isIdentifier name && argsWellFormed args
  | .member base name => base.isWellFormed && isIdentifier name
  | .interpolation _ hole rest => hole.isWellFormed && rest.isWellFormed

def argsWellFormed : List Expr → Bool
  | [] => true
  | arg :: rest => arg.isWellFormed && argsWellFormed rest

def Segments.isWellFormed : Segments → Bool
  | .last _ => true
  | .next _ hole rest => hole.isWellFormed && rest.isWellFormed

end

theorem zip?_literals_expressions (s : Segments) :
    Segments.zip? s.literals s.expressions = some s := by
  fun_induction Segments.literals s with
  | case1 => rfl
  | case2 literal hole rest ih =>
    rw [Segments.expressions, Segments.zip?, ih]
    rfl

/-- Every interpolated string is built from its literals and expressions. -/
theorem build_interpolation (first : String) (hole : Expr) (rest : Segments) :
    Interpolation.build ⟨first :: rest.literals, hole :: rest.expressions⟩ =
      .ok (.interpolation first hole rest) := by
  simp only [Interpolation.build, zip?_literals_expressions]

section Identifier

variable {s : List Char}

theorem isWordChar_of_isIdentifierWord (h : isIdentifierWord s = true) :
    ∀ c ∈ s, isWordChar c = true := by
  cases s with
  | nil => simp
  | cons c s =>
    simp only [isIdentifierWord, Bool.and_eq_true, List.all_eq_true] at h
    simp only [List.mem_cons, forall_eq_or_imp]
    refine ⟨?_, h.2⟩
    have hc := h.1
    simp only [Bool.or_eq_true] at hc
    simp only [isWordChar, Char.isAlphanum, Bool.or_eq_true]
    exact hc.imp_left .inl

theorem ne_nil_of_isIdentifierWord (h : isIdentifierWord s = true) : s ≠ [] := by
  rintro rfl
  simp [isIdentifierWord] at h

theorem isDigit_eq_false_of_isAlpha {c : Char} (h : c.isAlpha = true) : c.isDigit = false := by
  have hletter : 'A'.val ≤ c.val := by
    rcases (Bool.or_eq_true _ _).mp h with hu | hl
    · exact (of_decide_eq_true hu).1
    · have hlower : 'a'.val ≤ c.val := of_decide_eq_true ((Bool.and_eq_true _ _).mp hl).1
      exact UInt32.le_trans (by decide) hlower
  cases hd : c.isDigit with
  | false => rfl
  | true =>
    have hdigit : c.val ≤ '9'.val := of_decide_eq_true ((Bool.and_eq_true _ _).mp hd).2
    exact absurd (UInt32.le_trans hletter hdigit) (by decide)

theorem all_isDigit_eq_false_of_isIdentifierWord (h : isIdentifierWord s = true) :
    s.all Char.isDigit = false := by
  cases s with
  | nil => simp [isIdentifierWord] at h
  | cons c s =>
    simp only [isIdentifierWord, Bool.and_eq_true, Bool.or_eq_true, beq_iff_eq] at h
    have hc : c.isDigit = false := by
      rcases h.1 with ha | rfl
      · exact isDigit_eq_false_of_isAlpha ha
      · decide
    simp [hc]

end Identifier

end BicepTemplates
