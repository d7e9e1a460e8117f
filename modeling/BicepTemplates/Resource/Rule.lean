import BicepTemplates.Error

/-! # Rules

The rules of a resource are checked in a fixed order. Each yields its violation or nothing, and
the first violation is the one reported.
-/

namespace BicepTemplates

abbrev Rule := Option ValidationError

namespace Rule

/-- The violation arises exactly if the condition holds. -/
def forbid (condition : Bool) (violation : ValidationError) : Rule :=
  if condition then some violation else none

/-- A field that has to be set. -/
def required {α : Type} (field reason : String) (value : Option α) : Rule :=
  forbid value.isNone (.missingField field reason)

/-- A number has to lie between the bounds, if it is set. -/
def range (field : String) (min max : Int) : Option Int → Rule
  | some value => forbid (value < min || max < value) (.outOfRange field value min max)
  | none => none

/-- Succeeds exactly if every rule holds. -/
def check (rules : List Rule) : Except ValidationError Unit :=
  match rules.findSome? id with
  | some violation => .error violation
  | none => .ok ()

theorem check_eq_ok_iff {rules : List Rule} {u : Unit} :
    check rules = .ok u ↔ ∀ r ∈ rules, r = none := by
  unfold check
  cases h : rules.findSome? id with
  | none => simpa using List.findSome?_eq_none_iff.mp h
  | some violation =>
    obtain ⟨r, hr, hviolation⟩ := List.exists_of_findSome?_eq_some h
    simp only [reduceCtorEq, false_iff]
    intro hnone
    rw [id, hnone r hr] at hviolation
    exact nomatch hviolation

/-- The largest number a setting can hold. -/
def maxSetting : Int := 2147483647

end Rule

end BicepTemplates
