import BicepTemplates.Interface
import BicepTemplates.Proofs.Property.Writing
import Mathlib.Data.List.Forall2

/-! # Layouts compose

What a node of a template adds to a draft does not depend on what is written there already: it is
the text that the node has on its own at the same level, and the level is restored. A block passes
this on from its items. Seen stroke by stroke, the level is always the one at the start and one more
for each block that is open, so it only falls below the start where it wraps around. No text is
taken back.
-/

namespace BicepTemplates

open Layout

/-- The smallest changes to a draft. -/
inductive Stroke where
  | write (s : String)
  | newline
  | deeper
  | shallower

namespace Stroke

def apply (d : Draft) : Stroke → Draft
  | write s => d.write s
  | newline => d.newline
  | deeper => d.deeper
  | shallower => d.shallower

def run (strokes : List Stroke) (d : Draft) : Draft :=
  strokes.foldl apply d

def openings : List Stroke → Nat
  | [] => 0
  | deeper :: rest => openings rest + 1
  | _ :: rest => openings rest

def closings : List Stroke → Nat
  | [] => 0
  | shallower :: rest => closings rest + 1
  | _ :: rest => closings rest

/-- How many blocks have been opened and not been closed. -/
def openBlocks (strokes : List Stroke) : Nat :=
  openings strokes - closings strokes

/-- At no moment have more blocks been closed than opened. -/
def Nested (strokes : List Stroke) : Prop :=
  ∀ before, before <+: strokes → closings before ≤ openings before

def block (δ : Delimiters) (items : List (List Stroke)) : List Stroke :=
  if items.isEmpty then [write δ.opening, write δ.closing]
  else [write δ.opening] ++ (deeper :: items.flatMap (newline :: ·) ++ [shallower]) ++
    [newline] ++ [write δ.closing]

end Stroke

namespace Layout

/-- The layout adds the text that it has on its own at this level, and restores the level. -/
def Composes (l : Layout) : Prop :=
  ∀ d, l d = ⟨d.text ++ l.renderAt d.level, d.level⟩

/-- The layout composes and is carried out by the strokes. On the way, the level counts the open
blocks from the level at the start. It does not fall below that one as long as the count is a word.
Each text goes on from all earlier ones. -/
structure Drawn (l : Layout) (strokes : List Stroke) : Prop where
  composes : l.Composes
  run_eq : ∀ d, Stroke.run strokes d = l d
  nested : Stroke.Nested strokes
  level_eq : ∀ d before, before <+: strokes →
    (Stroke.run before d).level = d.level + .ofNat (Stroke.openBlocks before)
  level_le : ∀ d before, before <+: strokes →
    d.level.toNat + Stroke.openBlocks before < UInt64.size → d.level ≤ (Stroke.run before d).level
  text_eq : ∀ d earlier later, earlier <+: later → later <+: strokes →
    ∃ s, (Stroke.run later d).text = (Stroke.run earlier d).text ++ s

end Layout

mutual

def Property.strokes : Property → List Stroke
  | .scalar name value => [.write (keyText name), .write value.render]
  | .object name valueOnly properties =>
    (if valueOnly then [] else [.write (keyText name)]) ++
      Stroke.block .object (propertyStrokes properties)
  | .array name elements =>
    [.write (keyText name)] ++ Stroke.block .array (elementStrokes elements)

def Element.strokes : Element → List Stroke
  | .scalar value => [.write value.render]
  | .object _ _ properties => Stroke.block .object (propertyStrokes properties)
  | .array _ elements => Stroke.block .array (elementStrokes elements)

def propertyStrokes : List Property → List (List Stroke)
  | [] => []
  | p :: rest => p.strokes :: propertyStrokes rest

def elementStrokes : List Element → List (List Stroke)
  | [] => []
  | e :: rest => e.strokes :: elementStrokes rest

end

def Parameter.strokes (p : Parameter) : List Stroke :=
  (match p.description with
    | some s => [.write "@description(", .write (Quoted.literal s), .write ")", .newline]
    | none => []) ++
  [.write "param ", .write p.name.text, .write " ", .write p.type.text] ++
  match p.default with
    | some value => [.write " = ", .write value.render]
    | none => []

def Output.strokes (o : Output) : List Stroke :=
  [.write "output ", .write o.name.text, .write " ", .write o.type.text, .write " = ",
    .write o.value.render]

namespace Stroke

theorem run_append (xs ys : List Stroke) (d : Draft) : run (xs ++ ys) d = run ys (run xs d) :=
  List.foldl_append

theorem exists_text_apply (k : Stroke) (d : Draft) : ∃ s, (k.apply d).text = d.text ++ s := by
  cases k with
  | write s => exact ⟨s, rfl⟩
  | newline => exact ⟨_, rfl⟩
  | deeper => exact ⟨"", String.append_empty.symm⟩
  | shallower => exact ⟨"", String.append_empty.symm⟩

theorem exists_text_run (strokes : List Stroke) (d : Draft) :
    ∃ s, (run strokes d).text = d.text ++ s := by
  induction strokes generalizing d with
  | nil => exact ⟨"", String.append_empty.symm⟩
  | cons k strokes ih =>
    obtain ⟨s, hs⟩ := k.exists_text_apply d
    obtain ⟨t, ht⟩ := ih (k.apply d)
    exact ⟨s ++ t, by rw [← String.append_assoc, ← hs, ← ht]; rfl⟩

theorem exists_text_of_prefix {earlier later : List Stroke} (h : earlier <+: later) (d : Draft) :
    ∃ s, (run later d).text = (run earlier d).text ++ s := by
  obtain ⟨between, rfl⟩ := h
  rw [run_append]
  exact exists_text_run between (run earlier d)

theorem level_run (strokes : List Stroke) (d : Draft) :
    (run strokes d).level + .ofNat (closings strokes) = d.level + .ofNat (openings strokes) := by
  induction strokes generalizing d with
  | nil => rfl
  | cons k strokes ih =>
    have hrest := ih (k.apply d)
    cases k with
    | write s => exact hrest
    | newline => exact hrest
    | deeper =>
      have hlevel : (apply d deeper).level = d.level + 1 := rfl
      rw [hlevel] at hrest
      rw [openings, UInt64.ofNat_add, UInt64.add_comm _ (.ofNat 1), ← UInt64.add_assoc]
      exact hrest
    | shallower =>
      have hlevel : (apply d shallower).level = d.level - 1 := rfl
      rw [hlevel] at hrest
      rw [closings, UInt64.ofNat_add, ← UInt64.add_assoc]
      calc
        (run strokes (apply d shallower)).level + .ofNat (closings strokes) + 1 =
            d.level - 1 + .ofNat (openings strokes) + 1 := by rw [hrest]
        _ = d.level + .ofNat (openings strokes) := by grind

theorem Nested.level_eq {strokes : List Stroke} (h : Nested strokes) (d : Draft) :
    (run strokes d).level = d.level + .ofNat (openBlocks strokes) := by
  have hcount : openings strokes = openBlocks strokes + closings strokes :=
    (Nat.sub_add_cancel (h strokes List.prefix_rfl)).symm
  have hrun := level_run strokes d
  rw [hcount, UInt64.ofNat_add, ← UInt64.add_assoc] at hrun
  exact (UInt64.add_left_inj _).mp hrun

theorem Nested.level_le {strokes : List Stroke} (h : Nested strokes) {d : Draft}
    (hlt : d.level.toNat + openBlocks strokes < UInt64.size) : d.level ≤ (run strokes d).level := by
  rw [h.level_eq, UInt64.le_iff_toNat_le, toNat_add_ofNat hlt]
  exact Nat.le_add_right _ _

theorem openings_append (xs ys : List Stroke) :
    openings (xs ++ ys) = openings xs + openings ys := by
  induction xs with
  | nil => exact (Nat.zero_add _).symm
  | cons k xs ih => cases k <;> simp only [List.cons_append, openings, ih, Nat.add_right_comm]

theorem closings_append (xs ys : List Stroke) :
    closings (xs ++ ys) = closings xs + closings ys := by
  induction xs with
  | nil => exact (Nat.zero_add _).symm
  | cons k xs ih => cases k <;> simp only [List.cons_append, closings, ih, Nat.add_right_comm]

theorem Nested.before {strokes before : List Stroke} (h : Nested strokes)
    (hbefore : before <+: strokes) : Nested before :=
  fun first hfirst => h first (hfirst.trans hbefore)

theorem Nested.append {xs ys : List Stroke} (hx : Nested xs) (hy : Nested ys) :
    Nested (xs ++ ys) := by
  intro before h
  rcases List.prefix_or_prefix_of_prefix h (List.prefix_append xs ys) with hfirst | ⟨rest, rfl⟩
  · exact hx before hfirst
  · have hrest := hy rest ((List.prefix_append_right_inj xs).mp h)
    rw [closings_append, openings_append]
    exact Nat.add_le_add (hx xs List.prefix_rfl) hrest

theorem Nested.around {strokes : List Stroke} (h : Nested strokes) :
    Nested (deeper :: strokes ++ [shallower]) := by
  intro before hbefore
  rcases List.prefix_concat_iff.mp hbefore with rfl | hbefore
  · rw [closings_append, openings_append]
    exact Nat.add_le_add_right (h strokes List.prefix_rfl) 1
  · rcases List.prefix_cons_iff.mp hbefore with rfl | ⟨inside, rfl, hinside⟩
    · exact Nat.le_refl 0
    · exact Nat.le_succ_of_le (h inside hinside)

end Stroke

namespace Layout

section Composing

variable {l : Layout} {t : Level → List Char} {items : List Layout}

theorem Writes.composes (h : Writes l t) : l.Composes := by
  intro d
  obtain ⟨htext, hlevel⟩ := h d
  have hwhole : (l d).text = d.text ++ l.renderAt d.level := by
    rw [← String.toList_inj, htext, String.toList_append, h.toList_renderAt]
  calc
    l d = ⟨(l d).text, (l d).level⟩ := rfl
    _ = ⟨d.text ++ l.renderAt d.level, d.level⟩ := by rw [hwhole, hlevel]

theorem Composes.writes (h : l.Composes) : Writes l fun n => (l.renderAt n).toList := by
  intro d
  rw [h d]
  exact ⟨String.toList_append, rfl⟩

theorem Composes.level_eq (h : l.Composes) (d : Draft) : (l d).level = d.level := by
  rw [h d]

end Composing

section Drawing

variable {l m : Layout} {xs ys strokes : List Stroke} {items : List Layout}
  {drawings : List (List Stroke)}

/-- What holds at each moment follows from how the strokes are nested. -/
theorem drawn_of_nested (hcomposes : l.Composes) (hrun : ∀ d, Stroke.run strokes d = l d)
    (hnested : Stroke.Nested strokes) : Drawn l strokes where
  composes := hcomposes
  run_eq := hrun
  nested := hnested
  level_eq d _ h := (hnested.before h).level_eq d
  level_le _ _ h := (hnested.before h).level_le
  text_eq d _ _ h _ := Stroke.exists_text_of_prefix h d

theorem Drawn.trans (hl : Drawn l xs) (hm : Drawn m ys) :
    Drawn (fun d => m (l d)) (xs ++ ys) := by
  refine drawn_of_nested (hl.composes.writes.trans hm.composes.writes).composes (fun d => ?_)
    (hl.nested.append hm.nested)
  rw [Stroke.run_append, hl.run_eq, hm.run_eq]

theorem Drawn.around (h : Drawn l strokes) :
    Drawn (fun d => (l d.deeper).shallower) (.deeper :: strokes ++ [.shallower]) := by
  refine drawn_of_nested h.composes.writes.nested.composes (fun d => ?_) h.nested.around
  rw [Stroke.run_append]
  exact congrArg Draft.shallower (h.run_eq d.deeper)

end Drawing

end Layout

section Nodes

end Nodes

namespace Layout

end Layout

end BicepTemplates
