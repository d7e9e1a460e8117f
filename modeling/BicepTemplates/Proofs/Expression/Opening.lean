import BicepTemplates.Proofs.Expression.Reading

/-! # How expressions start

A well-formed expression starts with a word, with a quote, or with the sign of a negative number.
Behind its first word or number it ends, or goes on with a member access or a call.
-/

namespace BicepTemplates

/-- What can stand behind the first word of an expression. -/
inductive AfterWord : List Char → Prop where
  | none : AfterWord []
  | member (rest : List Char) : AfterWord ('.' :: rest)
  | call (rest : List Char) : AfterWord ('(' :: rest)

inductive Opening : List Char → Prop where
  | word {w r : List Char} (hne : w ≠ []) (hw : ∀ c ∈ w, isWordChar c = true) (hr : AfterWord r) :
      Opening (w ++ r)
  | quote (rest : List Char) : Opening ('\'' :: rest)
  | minus {w r : List Char} (hw : ∀ c ∈ w, isWordChar c = true) (hr : AfterWord r) :
      Opening ('-' :: (w ++ r))

section Members

variable {r s : List Char}

theorem AfterWord.ends (h : AfterWord r) : Ends isWordChar r := by
  cases h with
  | none => exact ends_nil
  | member rest => exact ends_cons.mpr (by decide)
  | call rest => exact ends_cons.mpr (by decide)

theorem AfterWord.append_member (h : AfterWord r) (name : List Char) :
    AfterWord (r ++ '.' :: name) := by
  cases h with
  | none => exact .member name
  | member rest => exact .member _
  | call rest => exact .call _

theorem Opening.append_member (h : Opening s) (name : List Char) :
    Opening (s ++ '.' :: name) := by
  cases h with
  | word hne hw hr =>
    rw [List.append_assoc]
    exact .word hne hw (hr.append_member name)
  | quote rest => exact .quote _
  | minus hw hr =>
    rw [List.cons_append, List.append_assoc]
    exact .minus hw (hr.append_member name)

end Members

theorem Opening.of_word {w : List Char} (hne : w ≠ []) (hw : ∀ c ∈ w, isWordChar c = true) :
    Opening w := by
  rw [← List.append_nil w]
  exact .word hne hw .none

theorem Expr.opening : ∀ e : Expr, e.isWellFormed = true → Opening e.chars
  | .text _, _ => .quote _
  | .int (.ofNat _), _ => .of_word Nat.toDigits_ne_nil fun _ => isWordChar_of_mem_toDigits
  | .int (.negSucc n), _ => by
    rw [chars, decimal, ← List.append_nil (Nat.toDigits 10 (n + 1))]
    exact .minus (fun _ => isWordChar_of_mem_toDigits) .none
  | .bool true, _ => .of_word (by decide) (List.all_eq_true.mp (by decide))
  | .bool false, _ => .of_word (by decide) (List.all_eq_true.mp (by decide))
  | .symbol _, h => by
    simp only [isWellFormed, Bool.and_eq_true] at h
    exact .of_word (ne_nil_of_isIdentifierWord h.1.1) (isWordChar_of_isIdentifierWord h.1.1)
  | .call name args, h => by
    simp only [isWellFormed, Bool.and_eq_true] at h
    rw [chars, List.append_assoc, List.cons_append]
    exact .word (ne_nil_of_isIdentifierWord h.1) (isWordChar_of_isIdentifierWord h.1) (.call _)
  | .member base name, h => by
    simp only [isWellFormed, Bool.and_eq_true] at h
    exact (base.opening h.1).append_member name.toList
  | .interpolation _ _ _, _ => .quote _

end BicepTemplates
