import BicepTemplates.Layout

/-! # What layouts write

A layout only adds text to a draft. What it adds depends on the nesting level alone, and the level
is the same afterwards. Blocks keep this up: between the delimiters, each item stands on a line of
its own, one level deeper.
-/

namespace BicepTemplates

theorem intercalate_cons (sep x : List Char) (xs : List (List Char)) :
    sep.intercalate (x :: xs) = x ++ xs.flatMap fun y => sep ++ y := by
  induction xs generalizing x with
  | nil => simp [List.intercalate]
  | cons y ys ih =>
    rw [List.intercalate_cons_cons, ih, List.flatMap_cons, List.append_assoc, List.append_assoc]

theorem toNat_add_ofNat {level : Level} {k : Nat} (h : level.toNat + k < UInt64.size) :
    (level + .ofNat k).toNat = level.toNat + k := by
  have hk : (UInt64.ofNat k).toNat = k :=
    UInt64.toNat_ofNat_of_lt' (Nat.lt_of_le_of_lt (Nat.le_add_left _ _) h)
  rw [UInt64.toNat_add, hk]
  exact Nat.mod_eq_of_lt h

namespace Layout

/-- The layout adds the text for the level of the draft, and leaves the level alone. -/
def Writes (l : Layout) (text : Level → List Char) : Prop :=
  ∀ d, (l d).text.toList = d.text.toList ++ text d.level ∧ (l d).level = d.level

/-- A line break and the indentation of the next line. -/
def lineStart (level : Level) : List Char :=
  '\n' :: List.replicate (2 * level).toNat ' '

def blockText (δ : Delimiters) (items : List (Level → List Char)) (level : Level) : List Char :=
  δ.opening.toList ++ (items.flatMap fun item => lineStart (level + 1) ++ item (level + 1)) ++
    (if items.isEmpty then [] else lineStart level) ++ δ.closing.toList

section Writes

variable {l m : Layout} {t u : Level → List Char}

theorem writes_write (s : String) : Writes (Draft.write s) fun _ => s.toList :=
  fun _ => ⟨by simp [Draft.write], rfl⟩

theorem writes_newline : Writes Draft.newline lineStart :=
  fun _ => ⟨by simp [Draft.newline, Draft.write, lineStart], rfl⟩

theorem Writes.trans (hl : Writes l t) (hm : Writes m u) :
    Writes (fun d => m (l d)) fun n => t n ++ u n := by
  intro d
  obtain ⟨ht, hn⟩ := hl d
  obtain ⟨hu, hk⟩ := hm (l d)
  exact ⟨by rw [hu, ht, hn, List.append_assoc], hk.trans hn⟩

theorem Writes.congr (hl : Writes l t) (h : ∀ n, t n = u n) : Writes l u :=
  fun d => ⟨by rw [(hl d).1, h], (hl d).2⟩

theorem Writes.toList_renderAt (hl : Writes l t) (level : Level) :
    (renderAt l level).toList = t level := by
  rw [renderAt, (hl _).1]
  rfl

theorem Writes.nested (hl : Writes l t) :
    Writes (fun d => (l d.deeper).shallower) fun n => t (n + 1) := by
  intro d
  obtain ⟨ht, hn⟩ := hl d.deeper
  exact ⟨ht, (congrArg (· - 1) hn).trans (UInt64.add_sub_cancel d.level 1)⟩

section Items

variable {α : Type} {layout : α → Layout} {text : α → Level → List Char} {xs : List α}

theorem writes_lines (h : ∀ x ∈ xs, Writes (layout x) (text x)) :
    Writes (lines (xs.map layout)) fun n => (xs.map text).flatMap fun t => lineStart n ++ t n := by
  induction xs with
  | nil => exact fun d => ⟨by simp [lines], rfl⟩
  | cons x xs ih =>
    simp only [List.mem_cons, forall_eq_or_imp] at h
    refine ((writes_newline.trans h.1).trans (ih h.2)).congr fun n => ?_
    rw [List.map_cons, List.flatMap_cons]

theorem writes_block (δ : Delimiters) (h : ∀ x ∈ xs, Writes (layout x) (text x)) :
    Writes (block δ (xs.map layout)) (blockText δ (xs.map text)) := by
  cases xs with
  | nil => exact ((writes_write _).trans (writes_write _)).congr fun n => by simp [blockText]
  | cons x xs =>
    have hlines := (writes_lines h).nested
    refine ((((writes_write δ.opening).trans hlines).trans writes_newline).trans
      (writes_write δ.closing)).congr fun n => ?_
    rfl

end Items

end Writes

end Layout

end BicepTemplates
