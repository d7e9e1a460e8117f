import BicepTemplates.Error
import BicepTemplates.Expression
import BicepTemplates.Identifier
import BicepTemplates.Text.Identifier

/-! # Symbolic names

A name is a non-empty word of ASCII letters, digits and underscores. It comes from text that was
checked, or is generated: a fixed beginning followed by the identifier of a seed. Any words will do
for identifiers, and those derived from the digest are the ones in use.
-/

namespace BicepTemplates

structure Name where
  text : String
  valid : isName text = true
  deriving DecidableEq, Repr

/-- The fixed beginning of generated names. -/
structure NameStem where
  text : String
  valid : text.toList.all isWordChar = true

/-- A way to identify seeds by words. -/
structure Identification where
  identify : String → String
  valid : ∀ seed, isName (identify seed) = true

theorem isWordChar_hexDigit {k : Nat} (h : k < 16) :
    isWordChar (Digest.hexDigit .upper k) = true := by
  revert k; decide

theorem all_isWordChar_identifierChars (seed : String) :
    (identifierChars seed).all isWordChar = true := by
  refine List.all_eq_true.2 fun c hc => ?_
  obtain ⟨k, hk, rfl⟩ := Digest.mem_hex hc
  exact isWordChar_hexDigit hk

theorem isName_identifier (seed : String) : isName (identifier seed) = true := by
  have h : (identifierChars seed).length = 8 := Digest.length_hex ..
  have hne : identifierChars seed ≠ [] := by
    intro he; rw [he] at h; exact absurd h (by decide)
  simp [isName, identifier, all_isWordChar_identifierChars, hne]

abbrev Identification.digest : Identification := ⟨identifier, isName_identifier⟩

namespace Name

/-- Reports the first character that cannot stand in a name. -/
def ofString (s : String) : Except NameError Name :=
  if valid : isName s = true then .ok ⟨s, valid⟩
  else match s.toList.find? fun c => !isWordChar c with
    | none => .error .empty
    | some c => .error (.invalidCharacter s c)

theorem text_of_ofString {s : String} {n : Name} (h : ofString s = .ok n) : n.text = s := by
  unfold ofString at h
  split at h
  · obtain rfl := Except.ok.inj h
    rfl
  · split at h <;> cases h

theorem ofString_text (n : Name) : ofString n.text = .ok n :=
  dif_pos n.valid

theorem isName_append {word : String} (stem : NameStem) (h : isName word = true) :
    isName (stem.text ++ word) = true := by
  simp only [isName, Bool.and_eq_true, Bool.not_eq_true', List.isEmpty_eq_false_iff] at h ⊢
  rw [String.toList_append, List.all_append, stem.valid, h.2]
  exact ⟨List.append_ne_nil_of_right_ne_nil _ h.1, rfl⟩

/-- The stem followed by the identifier of the seed. -/
def generated (stem : NameStem) (seed : String) (i : Identification := .digest) : Name :=
  ⟨stem.text ++ i.identify seed, isName_append stem (i.valid seed)⟩

/-- Like `generated`, for a beginning that may not be a word. -/
def allocated (stem seed : String) : Except NameError Name :=
  ofString (stem ++ identifier seed)

def reference (n : Name) : Expr := .symbol n.text

theorem eq_of_text_eq {m n : Name} (h : m.text = n.text) : m = n := by
  cases m
  cases n
  cases h
  rfl

theorem identify_eq_of_generated_eq {stem : NameStem} {i : Identification} {s t : String}
    (h : generated stem s i = generated stem t i) : i.identify s = i.identify t := by
  have htexts : stem.text.toList ++ (i.identify s).toList =
      stem.text.toList ++ (i.identify t).toList := by
    simpa [generated] using congrArg (String.toList ∘ text) h
  exact String.toList_inj.mp (List.append_cancel_left htexts)

theorem isWordChar_of_mem (n : Name) : ∀ c ∈ n.text.toList, isWordChar c = true := by
  have h := n.valid
  simp only [isName, Bool.and_eq_true, List.all_eq_true] at h
  exact h.2

end Name

end BicepTemplates
