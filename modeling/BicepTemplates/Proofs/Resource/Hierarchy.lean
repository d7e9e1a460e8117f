import BicepTemplates.Resource.Hierarchy
import Mathlib.Data.List.Basic

/-! # Walks over hierarchies

A walk over a thing and all below it is the thing itself, followed by the walks over what it owns.
So it is depth first, and reaches everything that is owned by something it reaches.
-/

namespace BicepTemplates.Hierarchy

variable {α : Type}

/-- The second list comes to everything in the first and, right behind it, to what is below it. -/
inductive DepthFirst (h : Hierarchy α) : List α → List α → Prop where
  | nil : DepthFirst h [] []
  | cons {a : α} {rest below after : List α} (hbelow : DepthFirst h (h.children a) below)
      (hafter : DepthFirst h rest after) : DepthFirst h (a :: rest) (a :: (below ++ after))

variable {h : Hierarchy α} {a b c : α} {n : Nat}

theorem children_eq_nil (ha : h.height a = 0) : h.children a = [] := by
  refine List.eq_nil_iff_forall_not_mem.mpr fun b hb => ?_
  have hlt := h.height_lt hb
  omega

/-- Beyond the height there is nothing to come to. -/
theorem preorderTo_succ (ha : h.height a ≤ n) : h.preorderTo (n + 1) a = h.preorderTo n a := by
  induction n generalizing a with
  | zero => rw [preorderTo, preorderTo, children_eq_nil (Nat.le_zero.mp ha), List.flatMap_nil]
  | succ n ih =>
    rw [preorderTo, preorderTo]
    congr 1
    refine List.flatMap_congr fun b hb => ih ?_
    exact Nat.le_of_lt_succ (Nat.lt_of_lt_of_le (h.height_lt hb) ha)

theorem preorderTo_eq_preorder (hn : h.height a ≤ n) : h.preorderTo n a = h.preorder a := by
  induction hn with
  | refl => rfl
  | step hm ih => rw [preorderTo_succ hm, ih]

theorem preorder_eq (h : Hierarchy α) (a : α) :
    h.preorder a = a :: (h.children a).flatMap h.preorder := by
  rw [← preorderTo_eq_preorder (Nat.le_succ (h.height a)), preorderTo]
  congr 1
  exact List.flatMap_congr fun b hb => preorderTo_eq_preorder (Nat.le_of_lt (h.height_lt hb))

theorem self_mem_preorder (h : Hierarchy α) (a : α) : a ∈ h.preorder a := by
  rw [preorder_eq]
  exact List.mem_cons_self

theorem mem_preorder_of_mem_children (hb : b ∈ h.children a) (hc : c ∈ h.preorder b) :
    c ∈ h.preorder a := by
  rw [preorder_eq]
  exact List.mem_cons_of_mem _ (List.mem_flatMap.mpr ⟨b, hb, hc⟩)

theorem induction {P : α → Prop} (h : Hierarchy α)
    (step : ∀ a, (∀ b ∈ h.children a, P b) → P a) (a : α) : P a := by
  have hbelow : ∀ n a, h.height a < n → P a := by
    intro n
    induction n with
    | zero => exact fun a ha => absurd ha (Nat.not_lt_zero _)
    | succ n ih =>
      intro a ha
      exact step a fun b hb => ih b (Nat.lt_of_lt_of_le (h.height_lt hb) (Nat.le_of_lt_succ ha))
  exact hbelow _ a (Nat.lt_succ_self _)

theorem depthFirst_flatMap {as : List α}
    (has : ∀ a ∈ as, h.DepthFirst (h.children a) ((h.children a).flatMap h.preorder)) :
    h.DepthFirst as (as.flatMap h.preorder) := by
  induction as with
  | nil => exact .nil
  | cons a as ih =>
    obtain ⟨ha, has⟩ := List.forall_mem_cons.mp has
    rw [List.flatMap_cons, preorder_eq, List.cons_append]
    exact .cons ha (ih has)

theorem depthFirst_preorder (h : Hierarchy α) (as : List α) :
    h.DepthFirst as (as.flatMap h.preorder) :=
  depthFirst_flatMap fun a _ => h.induction (fun _ => depthFirst_flatMap) a

end BicepTemplates.Hierarchy
