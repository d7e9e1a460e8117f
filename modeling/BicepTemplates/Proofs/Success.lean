import Mathlib.Data.List.Forall2

/-! # Successful computations

A computation that may fail succeeds if all its steps do, each with what the one before it gave.
Otherwise it fails as the first step that fails.
-/

namespace BicepTemplates

variable {α β ε : Type}

theorem bind_eq_ok_iff {x : Except ε α} {f : α → Except ε β} {b : β} :
    x >>= f = .ok b ↔ ∃ a, x = .ok a ∧ f a = .ok b := by
  cases x with
  | error e => simp [bind, Except.bind]
  | ok a => simp [bind, Except.bind]

theorem bind_eq_error_iff {x : Except ε α} {f : α → Except ε β} {e : ε} :
    x >>= f = .error e ↔ x = .error e ∨ ∃ a, x = .ok a ∧ f a = .error e := by
  cases x with
  | error e => simp [bind, Except.bind]
  | ok a => simp [bind, Except.bind]

theorem mapError_eq_ok_iff {δ : Type} {x : Except δ α} {f : δ → ε} {a : α} :
    x.mapError f = .ok a ↔ x = .ok a := by
  cases x <;> simp [Except.mapError]

theorem mapError_eq_error_iff {δ : Type} {x : Except δ α} {f : δ → ε} {e : ε} :
    x.mapError f = .error e ↔ ∃ cause, x = .error cause ∧ f cause = e := by
  cases x <;> simp [Except.mapError]

theorem eq_of_map_eq_ok {x : Except ε α} {b c : β} (h : (x.map fun _ => b) = .ok c) : c = b := by
  cases x with
  | error e => exact nomatch h
  | ok a => exact (Except.ok.inj h).symm

theorem mapM_eq_ok_iff {f : α → Except ε β} {xs : List α} {ys : List β} :
    xs.mapM f = .ok ys ↔ List.Forall₂ (fun x y => f x = .ok y) xs ys := by
  induction xs generalizing ys with
  | nil =>
    rw [List.mapM_nil, List.forall₂_nil_left_iff]
    exact ⟨fun h => (Except.ok.inj h).symm, fun h => h ▸ rfl⟩
  | cons x xs ih =>
    rw [List.mapM_cons, bind_eq_ok_iff, List.forall₂_cons_left_iff]
    constructor
    · rintro ⟨y, hy, h⟩
      obtain ⟨ys', hys, h⟩ := bind_eq_ok_iff.mp h
      exact ⟨y, ys', hy, ih.mp hys, (Except.ok.inj h).symm⟩
    · rintro ⟨y, ys', hy, hys, rfl⟩
      exact ⟨y, hy, bind_eq_ok_iff.mpr ⟨ys', ih.mpr hys, rfl⟩⟩

theorem mapM_eq_error_iff {f : α → Except ε β} {xs : List α} {e : ε} :
    xs.mapM f = .error e ↔ ∃ before x after, xs = before ++ x :: after ∧
      (∀ y ∈ before, ∃ b, f y = .ok b) ∧ f x = .error e := by
  induction xs with
  | nil => simp [pure, Except.pure]
  | cons x xs ih =>
    rw [List.mapM_cons, bind_eq_error_iff]
    constructor
    · rintro (hx | ⟨b, hx, h⟩)
      · exact ⟨[], x, xs, rfl, by simp, hx⟩
      · rcases bind_eq_error_iff.mp h with htail | ⟨_, _, hdone⟩
        · obtain ⟨before, y, after, rfl, hbefore, hy⟩ := ih.mp htail
          exact ⟨x :: before, y, after, rfl, List.forall_mem_cons.mpr ⟨⟨b, hx⟩, hbefore⟩, hy⟩
        · exact nomatch hdone
    · rintro ⟨before, y, after, hxs, hbefore, hy⟩
      cases before with
      | nil =>
        obtain ⟨rfl, -⟩ := List.cons.inj hxs
        exact .inl hy
      | cons z before =>
        obtain ⟨rfl, rfl⟩ := List.cons.inj hxs
        obtain ⟨⟨b, hx⟩, hbefore⟩ := List.forall_mem_cons.mp hbefore
        have htail := ih.mpr ⟨before, y, after, rfl, hbefore, hy⟩
        exact .inr ⟨b, hx, bind_eq_error_iff.mpr (.inl htail)⟩

/-- With a state, a step is followed by the next one exactly if it succeeds. -/
theorem run_bind {σ : Type} (c : ExceptT ε (StateM σ) α) (f : α → ExceptT ε (StateM σ) β)
    (before : σ) : (c >>= f).run before = match c.run before with
      | (.ok a, after) => (f a).run after
      | (.error e, after) => (.error e, after) := by
  unfold ExceptT.run
  simp only [bind, ExceptT.bind, ExceptT.mk, StateT.bind]
  cases c before with
  | mk answer after => cases answer <;> rfl

theorem run_liftM {σ : Type} (c : StateM σ α) (before : σ) :
    (liftM c : ExceptT ε (StateM σ) α).run before = (.ok (c before).1, (c before).2) :=
  rfl

section Results

variable {σ γ : Type} {c : ExceptT ε (StateM σ) α}

theorem run_return (c : ExceptT ε (StateM σ) α) (g : α → β) (before : σ) :
    (do return g (← c) : ExceptT ε (StateM σ) β).run before =
      ((c.run before).1.map g, (c.run before).2) := by
  rw [run_bind]
  cases c.run before with
  | mk answer after => cases answer <;> rfl

theorem run_return_of_run_eq {c' : ExceptT ε (StateM σ) γ} {f : γ → α} {before : σ} (g : α → β)
    (h : c.run before = ((c'.run before).1.map f, (c'.run before).2)) :
    (do return g (← c) : ExceptT ε (StateM σ) β).run before =
      ((c'.run before).1.map fun x => g (f x), (c'.run before).2) := by
  rw [run_return, h]
  cases (c'.run before).1 <;> rfl

end Results

end BicepTemplates
