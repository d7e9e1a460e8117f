import BicepTemplates.Proofs.Layout.Writing
import Mathlib.Data.List.Basic

/-! # Outlines

The outline of a text has its lines without their indentation, and tells how deep each of them is
nested. A text is laid out at a level by indenting all lines but the first. If no line has a break
in it, the lines are found again at the breaks of the text. As long as no indentation is longer than
a word can tell, it is two spaces per level, and moving the text to a deeper level puts spaces
behind its breaks and does nothing else.
-/

namespace BicepTemplates

/-- What stands on a line, and how deep it is nested. -/
structure Line where
  depth : Nat
  content : List Char

namespace Line

def deeper (l : Line) : Line := { l with depth := l.depth + 1 }

def levelFrom (level : Level) (l : Line) : Level := level + .ofNat l.depth

def indented (level : Level) (l : Line) : List Char :=
  List.replicate (2 * l.levelFrom level).toNat ' ' ++ l.content

/-- The line behind two spaces per level, however many these are. -/
def spaced (level : Nat) (l : Line) : List Char :=
  List.replicate (2 * (level + l.depth)) ' ' ++ l.content

end Line

/-- The lines of a text, of which the first is not nested. -/
structure Outline where
  first : List Char
  rest : List Line

namespace Outline

def lines (o : Outline) : List Line :=
  ⟨0, o.first⟩ :: o.rest

/-- The lines with line breaks between them, all but the first indented. -/
def text (o : Outline) (level : Level) : List Char :=
  ['\n'].intercalate (o.first :: o.rest.map (Line.indented level))

def line (content : List Char) : Outline :=
  ⟨content, []⟩

/-- Without children a container stands on one line. Otherwise they are one deeper than its
delimiters, which have lines of their own. -/
def container (δ : Delimiters) (key : List Char) : List Outline → Outline
  | [] => line (key ++ δ.opening.toList ++ δ.closing.toList)
  | children =>
    ⟨key ++ δ.opening.toList,
      (children.flatMap lines).map Line.deeper ++ [⟨0, δ.closing.toList⟩]⟩

end Outline

/-- Neither a space nor a line break. -/
def Inked (c : Char) : Prop :=
  c ≠ ' ' ∧ c ≠ '\n'

instance : DecidablePred Inked := fun _ => inferInstanceAs (Decidable (_ ∧ _))

/-- Text with neither spaces nor line breaks around it. -/
structure Trimmed (s : List Char) : Prop where
  starts : ∃ c ∈ s.head?, Inked c
  ends : ∃ c ∈ s.getLast?, Inked c

/-- Text on one line, with no spaces around it. -/
structure Line.Solid (s : List Char) : Prop extends Trimmed s where
  newline_not_mem : '\n' ∉ s

def Outline.Solid (o : Outline) : Prop :=
  ∀ l ∈ o.lines, Line.Solid l.content

namespace Layout

end Layout

open Layout

namespace Line

@[simp] theorem levelFrom_zero (level : Level) (content : List Char) :
    levelFrom level ⟨0, content⟩ = level :=
  UInt64.add_zero level

theorem levelFrom_deeper (level : Level) (l : Line) :
    l.deeper.levelFrom level = l.levelFrom (level + 1) := by
  rw [levelFrom, levelFrom, deeper, Nat.add_comm, UInt64.ofNat_add, UInt64.add_assoc]
  rfl

variable {level : Level} {l : Line}

end Line

section Trimmed

variable {c : Char} {s t : List Char}

theorem trimmed_singleton (hc : Inked c) : Trimmed [c] :=
  ⟨⟨c, rfl, hc⟩, ⟨c, rfl, hc⟩⟩

theorem Trimmed.around (hs : Trimmed s) (ht : Trimmed t) (between : List Char) :
    Trimmed (s ++ between ++ t) := by
  obtain ⟨c, hc, hinked⟩ := hs.starts
  obtain ⟨d, hd, hinked'⟩ := ht.ends
  refine ⟨⟨c, ?_, hinked⟩, ⟨d, ?_, hinked'⟩⟩
  · rw [List.head?_append, List.head?_append, hc]
    rfl
  · rw [List.getLast?_append, hd]
    rfl

theorem Trimmed.append (hs : Trimmed s) (ht : Trimmed t) : Trimmed (s ++ t) := by
  have h := hs.around ht []
  rwa [List.append_nil] at h

theorem Trimmed.append_flatMap {α : Type} {f : α → List Char} {xs : List α} (hs : Trimmed s)
    (h : ∀ x ∈ xs, Trimmed (f x)) (before : α → List Char) :
    Trimmed (s ++ xs.flatMap fun x => before x ++ f x) := by
  induction xs generalizing s with
  | nil => rwa [List.flatMap_nil, List.append_nil]
  | cons x xs ih =>
    obtain ⟨hx, hxs⟩ := List.forall_mem_cons.mp h
    rw [List.flatMap_cons, ← List.append_assoc, ← List.append_assoc]
    exact ih (hs.around hx _) hxs

theorem Trimmed.ne_nil (hs : Trimmed s) : s ≠ [] := by
  rintro rfl
  obtain ⟨c, hc, -⟩ := hs.starts
  exact nomatch hc

theorem Trimmed.inked_getLast? (hs : Trimmed s) (before : List Char) :
    ∀ c ∈ (before ++ s).getLast?, Inked c := by
  obtain ⟨c, hc, hinked⟩ := hs.ends
  rw [List.getLast?_append, hc]
  intro d hd
  rwa [← Option.some.inj hd]

end Trimmed

namespace Line.Solid

variable {c : Char} {s t : List Char}

theorem singleton (hc : Inked c) : Line.Solid [c] :=
  ⟨trimmed_singleton hc, by simpa using hc.2.symm⟩

theorem around (hs : Line.Solid s) (ht : Line.Solid t) {between : List Char}
    (h : '\n' ∉ between) : Line.Solid (s ++ between ++ t) := by
  refine ⟨hs.toTrimmed.around ht.toTrimmed between, ?_⟩
  simp only [List.mem_append, not_or]
  exact ⟨⟨hs.newline_not_mem, h⟩, ht.newline_not_mem⟩

theorem append (hs : Line.Solid s) (ht : Line.Solid t) : Line.Solid (s ++ t) := by
  have h := hs.around ht List.not_mem_nil
  rwa [List.append_nil] at h

end Line.Solid

section Shifted

variable {s : List Char}

end Shifted

namespace Outline

variable {o : Outline} {level : Level}

theorem text_eq (o : Outline) (level : Level) : o.text level =
    o.first ++ o.rest.flatMap fun l => lineStart (l.levelFrom level) ++ l.content := by
  rw [text, intercalate_cons, List.flatMap_map]
  rfl

@[simp] theorem text_line (content : List Char) (level : Level) :
    (line content).text level = content := by
  simp [line, text_eq]

theorem lineStart_append_text (o : Outline) (level : Level) :
    lineStart (level + 1) ++ o.text (level + 1) =
      (o.lines.map Line.deeper).flatMap fun l => lineStart (l.levelFrom level) ++ l.content := by
  rw [text_eq, ← List.append_assoc, lines, List.map_cons, List.flatMap_cons, List.flatMap_map]
  simp only [Line.levelFrom_deeper, Line.levelFrom_zero]
  rfl

theorem text_container (δ : Delimiters) (key : List Char) (children : List Outline)
    (level : Level) :
    (container δ key children).text level = key ++ blockText δ (children.map text) level := by
  cases children with
  | nil => simp [container, blockText]
  | cons o os =>
    have hitems : (o :: os).flatMap (fun o => lineStart (level + 1) ++ o.text (level + 1)) =
        (((o :: os).flatMap lines).map Line.deeper).flatMap fun l =>
          lineStart (l.levelFrom level) ++ l.content := by
      rw [List.map_flatMap, List.flatMap_assoc]
      simp only [lineStart_append_text]
    rw [container, text_eq, List.flatMap_append, ← hitems, blockText, List.flatMap_map]
    · simp
    · exact List.cons_ne_nil _ _

theorem solid_iff : o.Solid ↔ Line.Solid o.first ∧ ∀ l ∈ o.rest, Line.Solid l.content :=
  List.forall_mem_cons

theorem solid_line {content : List Char} (h : Line.Solid content) : (line content).Solid :=
  solid_iff.mpr ⟨h, List.forall_mem_nil _⟩

theorem solid_container {δ : Delimiters} {key : List Char} {children : List Outline}
    (hopening : Line.Solid (key ++ δ.opening.toList)) (hclosing : Line.Solid δ.closing.toList)
    (h : ∀ o ∈ children, o.Solid) : (container δ key children).Solid := by
  cases children with
  | nil => exact solid_line (hopening.append hclosing)
  | cons o os =>
    refine solid_iff.mpr ⟨hopening, List.forall_mem_append.mpr ⟨?_, ?_⟩⟩
    · rw [List.forall_mem_map, List.forall_mem_flatMap]
      exact h
    · exact List.forall_mem_singleton.mpr hclosing

/-- The lines are those between the breaks. -/
theorem splitOn_text (h : o.Solid) (level : Level) :
    (o.text level).splitOn '\n' = o.first :: o.rest.map (Line.indented level) := by
  obtain ⟨hfirst, hrest⟩ := solid_iff.mp h
  refine List.splitOn_intercalate _ (List.forall_mem_cons.mpr ⟨hfirst.newline_not_mem, ?_⟩)
    (List.cons_ne_nil _ _)
  rw [List.forall_mem_map]
  intro l hl
  rw [Line.indented, List.mem_append, not_or]
  exact ⟨by simp, (hrest l hl).newline_not_mem⟩

theorem inked_of_mem_splitOn (h : o.Solid) :
    ∀ l ∈ (o.text level).splitOn '\n', l ≠ [] ∧ l.getLast? ≠ some ' ' := by
  have hend : ∀ {s : List Char}, Trimmed s → ∀ before : List Char,
      (before ++ s).getLast? ≠ some ' ' :=
    fun hs before he => (hs.inked_getLast? before ' ' he).1 rfl
  obtain ⟨hfirst, hrest⟩ := solid_iff.mp h
  rw [splitOn_text h, List.forall_mem_cons, List.forall_mem_map]
  refine ⟨⟨hfirst.ne_nil, hend hfirst.toTrimmed []⟩, fun l hl => ?_⟩
  have hl := (hrest l hl).toTrimmed
  exact ⟨List.append_ne_nil_of_right_ne_nil _ hl.ne_nil, hend hl _⟩

theorem trimmed_text (h : o.Solid) (level : Level) : Trimmed (o.text level) := by
  obtain ⟨hfirst, hrest⟩ := solid_iff.mp h
  rw [text_eq]
  exact hfirst.toTrimmed.append_flatMap (fun l hl => (hrest l hl).toTrimmed) _

end Outline

end BicepTemplates
