import BicepTemplates.Text.Guid
import BicepTemplates.Text.Identifier

/-! # How GUIDs are spelled

A GUID without hyphens is a single word of 32 digits. Every other spelling is longer, and the
character behind its first word tells which one it is: a hyphen, a brace or a colon.
-/

namespace BicepTemplates.Guid

theorem isWordChar_of_isHexDigit {c : Char} (h : isHexDigit c = true) : isWordChar c = true := by
  simp only [isHexDigit, Bool.or_eq_true, Bool.and_eq_true, decide_eq_true_eq] at h
  have hcases : c.isAlpha = true ∨ c.isDigit = true := by
    rcases h with (hdigit | ⟨ha, hf⟩) | ⟨ha, hf⟩
    · exact .inr hdigit
    · have hlower : c.isLower = true := (Bool.and_eq_true _ _).mpr
        ⟨decide_eq_true ha, decide_eq_true (UInt32.le_trans hf (by decide))⟩
      exact .inl ((Bool.or_eq_true _ _).mpr (.inr hlower))
    · have hupper : c.isUpper = true := decide_eq_true ⟨ha, UInt32.le_trans hf (by decide)⟩
      exact .inl ((Bool.or_eq_true _ _).mpr (.inl hupper))
  rw [isWordChar, Char.isAlphanum, Bool.or_eq_true, Bool.or_eq_true]
  exact .inl hcases

section Groups

variable {size next : Nat} {sizes : List Nat} {s : List Char}

theorem isGrouped_single (h : isGrouped [size] s = true) :
    s.length = size ∧ ∀ c ∈ s, isWordChar c = true := by
  simp only [isGrouped, Bool.and_eq_true, beq_iff_eq, List.all_eq_true] at h
  exact ⟨h.1, fun c hc => isWordChar_of_isHexDigit (h.2 c hc)⟩

theorem isGrouped_cons (h : isGrouped (size :: next :: sizes) s = true) :
    ∃ group rest, s = group ++ '-' :: rest ∧ group.length = size ∧
      (∀ c ∈ group, isWordChar c = true) ∧ isGrouped (next :: sizes) rest = true := by
  simp only [isGrouped, Bool.and_eq_true, beq_iff_eq, List.all_eq_true] at h
  obtain ⟨⟨hlength, hdigits⟩, hrest⟩ := h
  split at hrest
  · next rest hdrop =>
    refine ⟨s.take size, rest, ?_, hlength, fun c hc => ?_, hrest⟩
    · rw [← hdrop, List.take_append_drop]
    · exact isWordChar_of_isHexDigit (hdigits c hc)
  · exact nomatch hrest

theorem length_of_isGrouped (h : isGrouped (size :: sizes) s = true) :
    s.length = size + sizes.foldr (fun n total => n + 1 + total) 0 := by
  induction sizes generalizing size s with
  | nil => exact (isGrouped_single h).1
  | cons next sizes ih =>
    obtain ⟨group, rest, rfl, rfl, -, hrest⟩ := isGrouped_cons h
    rw [List.length_append, List.length_cons, ih hrest, List.foldr_cons]
    omega

end Groups

/-- The spellings, parted behind the first word. -/
inductive Spelled : List Char → Prop where
  | plain {digits : List Char} (h : isGrouped [32] digits = true) : Spelled digits
  | hyphenated {first second rest : List Char} (hfirst : ∀ c ∈ first, isWordChar c = true)
      (hlength : first.length = 8) (hsecond : ∀ c ∈ second, isWordChar c = true)
      (hrest : (second ++ '-' :: rest).length = 27) :
      Spelled (first ++ '-' :: (second ++ '-' :: rest))
  | braced {rest : List Char} (hrest : rest.length = 37) : Spelled ('{' :: rest)
  | urn {scheme rest : List Char} (hscheme : ∀ c ∈ scheme, isWordChar c = true)
      (hlength : scheme.length = 3) (hrest : rest.length = 41) : Spelled (scheme ++ ':' :: rest)

theorem spelled_of_isBraced {s : List Char} (h : isBraced s = true) : Spelled s := by
  unfold isBraced at h
  split at h
  · next rest =>
    have hlength : rest.dropLast.length = 36 :=
      length_of_isGrouped ((Bool.and_eq_true _ _).mp h).2
    rw [List.length_dropLast] at hlength
    exact .braced (by omega)
  · exact nomatch h

theorem spelled_of_isUrn {s : List Char} (h : isUrn s = true) : Spelled s := by
  simp only [isUrn, Bool.and_eq_true, Bool.or_eq_true, beq_iff_eq] at h
  have hlength : (s.drop 9).length = 36 := length_of_isGrouped h.2
  rw [← List.take_append_drop 9 s]
  rcases h.1 with hscheme | hscheme
  · rw [hscheme]
    exact @Spelled.urn ['u', 'r', 'n'] _ (List.all_eq_true.mp (by decide)) rfl (by simp [hlength])
  · rw [hscheme]
    exact @Spelled.urn ['U', 'R', 'N'] _ (List.all_eq_true.mp (by decide)) rfl (by simp [hlength])

theorem spelled_of_isGuid {text : String} (h : isGuid text = true) : Spelled text.toList := by
  simp only [isGuid, Bool.or_eq_true] at h
  rcases h with ((hplain | hhyphenated) | hbraced) | hurn
  · exact .plain hplain
  · obtain ⟨first, rest, htext, hfirst, hword, hrest⟩ := isGrouped_cons hhyphenated
    have hlength := length_of_isGrouped hrest
    obtain ⟨second, rest, rfl, -, hsecond, -⟩ := isGrouped_cons hrest
    rw [htext]
    exact .hyphenated hword hfirst hsecond hlength
  · exact spelled_of_isBraced hbraced
  · exact spelled_of_isUrn hurn

end BicepTemplates.Guid
