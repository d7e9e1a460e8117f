import BicepTemplates.Resource.Rule

/-! # Which violation is reported

Rules are checked in order, so if what they forbid is numbered in that order, the violation with the
least number is reported. This is put together from the single rules, one after the other.
-/

namespace BicepTemplates.Rule

section Single

variable {α : Type} {condition : Bool} {violation e : ValidationError} {field reason : String}
  {value : Option α} {min max : Int} {number : Option Int}

theorem forbid_eq_some_iff :
    forbid condition violation = some e ↔ condition = true ∧ e = violation := by
  cases condition <;> simp [forbid, eq_comm]

theorem required_eq_some_iff : required field reason value = some e ↔
    value = none ∧ e = .missingField field reason := by
  rw [required, forbid_eq_some_iff, Option.isNone_iff_eq_none]

theorem range_eq_some_iff : range field min max number = some e ↔
    ∃ n, number = some n ∧ (n < min ∨ max < n) ∧ e = .outOfRange field n min max := by
  cases number with
  | none => simp [range]
  | some n => simp [range, forbid_eq_some_iff]

theorem exists_within (hset : number ≠ none) (hrange : ∀ n, number = some n → ¬ (n < min ∨ max < n)) :
    ∃ n, number = some n ∧ min ≤ n ∧ n ≤ max := by
  obtain ⟨n, hn⟩ := Option.ne_none_iff_exists'.mp hset
  have hn' := hrange n hn
  exact ⟨n, hn, by omega, by omega⟩

end Single

section Check

variable {rules more : List Rule} {e : ValidationError}

theorem check_nil : check [] = .ok () := rfl

theorem check_cons (r : Rule) : check (r :: rules) = match r with
    | some violation => .error violation
    | none => check rules := by
  cases r <;> rfl

theorem check_append : check (rules ++ more) = match check rules with
    | .error violation => .error violation
    | .ok () => check more := by
  induction rules with
  | nil => rfl
  | cons r rules ih =>
    rw [List.cons_append, check_cons, check_cons]
    cases r with
    | none => exact ih
    | some violation => rfl

end Check

/-- Of what is numbered from `first` on and below `next`, the rules report the least that is broken. -/
structure Reports (Broken : Nat → ValidationError → Prop) (first next : Nat) (rules : List Rule) :
    Prop where
  ok_iff : check rules = .ok () ↔ ∀ k, first ≤ k → k < next → ∀ e, ¬ Broken k e
  error_iff : ∀ e, check rules = .error e ↔ ∃ k, first ≤ k ∧ k < next ∧ Broken k e ∧
    ∀ j, first ≤ j → j < k → ∀ e', ¬ Broken j e'

namespace Reports

variable {Broken : Nat → ValidationError → Prop} {first middle next k : Nat} {r : Rule}
  {rules more : List Rule}

theorem nil (h : ∀ k, first ≤ k → k < next → ∀ e, ¬ Broken k e) :
    Reports Broken first next [] where
  ok_iff := ⟨fun _ => h, fun _ => rfl⟩
  error_iff e := by
    constructor
    · intro herror
      exact nomatch herror
    · rintro ⟨k, hfirst, hnext, hk, -⟩
      exact absurd hk (h k hfirst hnext e)

theorem singleton (h : ∀ e, r = some e ↔ Broken k e) : Reports Broken k (k + 1) [r] where
  ok_iff := by
    rw [check_cons, check_nil]
    cases r with
    | none =>
      refine ⟨fun _ j hj hj' e hbroken => ?_, fun _ => rfl⟩
      obtain rfl : j = k := by omega
      exact nomatch (h e).mpr hbroken
    | some violation =>
      refine ⟨(nomatch ·), fun hnone => ?_⟩
      exact absurd ((h violation).mp rfl) (hnone k (Nat.le_refl k) (Nat.lt_succ_self k) violation)
  error_iff e := by
    rw [check_cons, check_nil]
    constructor
    · intro herror
      cases r with
      | none => exact nomatch herror
      | some violation =>
        obtain rfl := Except.error.inj herror
        exact ⟨k, (Nat.le_refl k), Nat.lt_succ_self k, (h _).mp rfl, fun j hj hj' => absurd hj' (by omega)⟩
    · rintro ⟨j, hj, hj', hbroken, -⟩
      obtain rfl : j = k := by omega
      rw [(h e).mpr hbroken]

/-- The rules behind others report only if these have nothing to report. -/
theorem append (h : Reports Broken first middle rules) (h' : Reports Broken middle next more)
    (hfirst : first ≤ middle := by omega) (hnext : middle ≤ next := by omega) :
    Reports Broken first next (rules ++ more) where
  ok_iff := by
    rw [check_append]
    cases hcheck : check rules with
    | error violation =>
      obtain ⟨k, hk, hk', hbroken, -⟩ := (h.error_iff violation).mp hcheck
      refine ⟨(nomatch ·), fun hnone => ?_⟩
      exact absurd hbroken (hnone k hk (by omega) violation)
    | ok =>
      have hbefore := h.ok_iff.mp hcheck
      rw [h'.ok_iff]
      refine ⟨fun hbehind k hk hk' => ?_, fun hnone k hk hk' => hnone k (by omega) hk'⟩
      rcases Nat.lt_or_ge k middle with hlt | hge
      · exact hbefore k hk hlt
      · exact hbehind k hge hk'
  error_iff e := by
    rw [check_append]
    cases hcheck : check rules with
    | error violation =>
      obtain ⟨k, hk, hk', hbroken, hleast⟩ := (h.error_iff violation).mp hcheck
      constructor
      · intro herror
        obtain rfl := Except.error.inj herror
        exact ⟨k, hk, by omega, hbroken, hleast⟩
      · rintro ⟨j, hj, -, hbroken', hleast'⟩
        have hjk : ¬ k < j := fun hlt => hleast' k hk hlt violation hbroken
        have herror := (h.error_iff e).mpr ⟨j, hj, by omega, hbroken', hleast'⟩
        rw [hcheck] at herror
        exact herror
    | ok =>
      have hbefore := h.ok_iff.mp hcheck
      rw [h'.error_iff]
      constructor
      · rintro ⟨k, hk, hk', hbroken, hleast⟩
        refine ⟨k, by omega, hk', hbroken, fun j hj hjk => ?_⟩
        rcases Nat.lt_or_ge j middle with hlt | hge
        · exact hbefore j hj hlt
        · exact hleast j hge hjk
      · rintro ⟨k, hk, hk', hbroken, hleast⟩
        have hge : middle ≤ k := Nat.le_of_not_lt fun hlt => hbefore k hk hlt e hbroken
        exact ⟨k, hge, hk', hbroken, fun j hj => hleast j (by omega)⟩

theorem cons (h : ∀ e, r = some e ↔ Broken k e) (h' : Reports Broken (k + 1) next rules)
    (hnext : k + 1 ≤ next := by omega) : Reports Broken k next (r :: rules) :=
  (singleton h).append h'

end Reports

end BicepTemplates.Rule
