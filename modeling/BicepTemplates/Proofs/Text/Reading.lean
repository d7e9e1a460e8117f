import BicepTemplates.Text.Identifier
import BicepTemplates.Text.Quoted

/-! # Reading words and literals

A word ends in front of a character that cannot stand in it, literal text ends at the closing
quote or where an expression opens. Both are read back from what is written, whatever follows.
Items with one separator in front of each come apart if they do so one by one.
-/

namespace BicepTemplates

/-- A run of characters of the class does not go on into the text. -/
def Ends (p : Char → Bool) : List Char → Prop
  | [] => True
  | c :: _ => p c = false

instance (p : Char → Bool) : DecidablePred (Ends p)
  | [] => inferInstanceAs (Decidable True)
  | c :: _ => inferInstanceAs (Decidable (p c = false))

section Ends

variable {p q : Char → Bool} {v w r s : List Char}

@[simp] theorem ends_nil : Ends p [] := trivial

@[simp] theorem ends_cons {c : Char} : Ends p (c :: r) ↔ p c = false := Iff.rfl

theorem Ends.mono (h : ∀ c, q c = true → p c = true) (hr : Ends p r) : Ends q r := by
  cases r with
  | nil => trivial
  | cons c r =>
    rw [ends_cons] at hr ⊢
    cases hc : q c with
    | false => rfl
    | true => exact absurd (h c hc) (by simp [hr])

theorem takeWhile_of_ends (hr : Ends p r) : r.takeWhile p = [] := by
  cases r with
  | nil => rfl
  | cons c r => simp [ends_cons.mp hr]

theorem dropWhile_of_ends (hr : Ends p r) : r.dropWhile p = r := by
  cases r with
  | nil => rfl
  | cons c r => simp [ends_cons.mp hr]

theorem takeWhile_append_of_ends (hw : ∀ c ∈ w, p c = true) (hr : Ends p r) :
    (w ++ r).takeWhile p = w := by
  rw [List.takeWhile_append_of_pos hw, takeWhile_of_ends hr, List.append_nil]

theorem dropWhile_append_of_ends (hw : ∀ c ∈ w, p c = true) (hr : Ends p r) :
    (w ++ r).dropWhile p = r := by
  rw [List.dropWhile_append_of_pos hw, dropWhile_of_ends hr]

/-- Where two runs of one class end, their texts come apart. -/
theorem run_append_inj (hv : ∀ c ∈ v, p c = true) (hw : ∀ c ∈ w, p c = true) (hr : Ends p r)
    (hs : Ends p s) (h : v ++ r = w ++ s) : v = w ∧ r = s := by
  constructor
  · rw [← takeWhile_append_of_ends hv hr, h, takeWhile_append_of_ends hw hs]
  · rw [← dropWhile_append_of_ends hv hr, h, dropWhile_append_of_ends hw hs]

end Ends

section Separated

variable {α β : Type} {p : Char → Bool} {sep : List Char} {f : α → List Char} {e : α → β}

theorem ends_separated_append {xs : List α} {t : List Char} (hsep : ∀ u, Ends p (sep ++ u))
    (ht : Ends p t) : Ends p (xs.flatMap (fun x => sep ++ f x) ++ t) := by
  cases xs with
  | nil => exact ht
  | cons x xs =>
    rw [List.flatMap_cons, List.append_assoc, List.append_assoc]
    exact hsep _

/-- The items and the text behind them are recovered, if none of the items can be taken for the
beginning of that text. -/
theorem separated_append_inj (hsep : ∀ u, Ends p (sep ++ u)) {xs ys : List α} {t t' : List Char}
    (hinj : ∀ x ∈ xs, ∀ y ∈ ys, ∀ r s, Ends p r → Ends p s → f x ++ r = f y ++ s →
      e x = e y ∧ r = s)
    (ht : Ends p t) (ht' : Ends p t')
    (hx : ∀ x ∈ xs, ∀ u, sep ++ (f x ++ u) ≠ t') (hy : ∀ y ∈ ys, ∀ u, sep ++ (f y ++ u) ≠ t)
    (h : xs.flatMap (fun x => sep ++ f x) ++ t = ys.flatMap (fun y => sep ++ f y) ++ t') :
    xs.map e = ys.map e ∧ t = t' := by
  induction xs generalizing ys with
  | nil =>
    cases ys with
    | nil => exact ⟨rfl, h⟩
    | cons y ys =>
      simp only [List.flatMap_nil, List.nil_append, List.flatMap_cons, List.append_assoc] at h
      exact absurd h.symm (hy y List.mem_cons_self _)
  | cons x xs ih =>
    cases ys with
    | nil =>
      simp only [List.flatMap_nil, List.nil_append, List.flatMap_cons, List.append_assoc] at h
      exact absurd h (hx x List.mem_cons_self _)
    | cons y ys =>
      simp only [List.flatMap_cons, List.append_assoc, List.append_cancel_left_eq] at h
      simp only [List.mem_cons, forall_eq_or_imp] at hinj hx hy
      obtain ⟨hxy, htail⟩ := hinj.1.1 _ _ (ends_separated_append hsep ht)
        (ends_separated_append hsep ht') h
      obtain ⟨hmap, htt⟩ := ih (fun x hx => (hinj.2 x hx).2) hx.2 hy.2 htail
      exact ⟨by rw [List.map_cons, List.map_cons, hxy, hmap], htt⟩

end Separated

namespace Quoted

/-- What literal text ends with: the closing quote or the opening of an expression. -/
inductive Stop where
  | quote
  | hole
  deriving DecidableEq, Repr

def Stop.chars : Stop → List Char
  | quote => ['\'']
  | hole => ['$', '{']

def escaped? : Char → Option Char
  | '\\' => some '\\'
  | '\'' => some '\''
  | '$' => some '$'
  | 'n' => some '\n'
  | 'r' => some '\r'
  | 't' => some '\t'
  | _ => none

/-- The literal text at the front, where it stops and what follows. A string stands on one line,
and a backslash that makes no escape stands for itself. -/
def read : List Char → Option (List Char × Stop × List Char)
  | [] => none
  | '\n' :: _ => none
  | '\r' :: _ => none
  | '\'' :: rest => some ([], .quote, rest)
  | '$' :: '{' :: rest => some ([], .hole, rest)
  | '\\' :: c :: rest =>
    match escaped? c with
    | some d => (read rest).map fun (text, more) => (d :: text, more)
    | none => (read (c :: rest)).map fun (text, more) => ('\\' :: text, more)
  | c :: rest => (read rest).map fun (text, more) => (c :: text, more)

/-- Characters that do not stand for themselves, whatever follows. -/
def isSpecial (c : Char) : Bool :=
  c == '\\' || c == '\'' || c == '\n' || c == '\r'

theorem read_plain {c : Char} {rest : List Char} (hc : isSpecial c = false)
    (hd : c = '$' → Ends (· == '{') rest) :
    read (c :: rest) = (read rest).map fun (text, more) => (c :: text, more) := by
  simp only [isSpecial, Bool.or_eq_false_iff, beq_eq_false_iff_ne] at hc
  obtain ⟨⟨⟨hb, hq⟩, hn⟩, hr⟩ := hc
  rw [read]
  · exact hn
  · exact hr
  · exact hq
  · rintro rest' rfl rfl
    simp at hd
  · rintro d rest' rfl
    exact absurd rfl hb

/-- A dollar sign is escaped in front of a brace only, so a brace comes first in the written text
exactly if it does in the text itself. -/
theorem ends_escape_append {text : List Char} (stop : Stop) (rest : List Char)
    (h : Ends (· == '{') text) : Ends (· == '{') (escape text ++ (stop.chars ++ rest)) := by
  fun_cases escape text with
  | case1 => cases stop <;> simp [Stop.chars]
  | case8 c text => simpa using h
  | _ => simp

theorem read_escape (text : List Char) (stop : Stop) (rest : List Char) :
    read (escape text ++ (stop.chars ++ rest)) = some (text, stop, rest) := by
  fun_induction escape text with
  | case1 => cases stop <;> rfl
  | case7 text ih =>
    have hbrace : ∀ t, read ('{' :: t) = (read t).map fun (text, more) => ('{' :: text, more) :=
      fun t => read_plain rfl nofun
    simp [read, escaped?, hbrace, ih]
  | case8 c text hb hq hn hr _ hd ih =>
    have hplain : isSpecial c = false := by simp_all [isSpecial]
    have hopen : c = '$' → Ends (· == '{') text := by
      rintro rfl
      cases text with
      | nil => trivial
      | cons d text => simpa using fun he => hd text rfl (by rw [he])
    rw [List.cons_append, read_plain hplain fun hc => ends_escape_append stop rest (hopen hc), ih]
    rfl
  | _ => simp_all [read, escaped?]

theorem encode_append_inj {v w r s : List Char} (h : encode v ++ r = encode w ++ s) :
    v = w ∧ r = s := by
  have hread : ∀ t u : List Char, read (escape t ++ '\'' :: u) = some (t, .quote, u) :=
    fun t u => read_escape t .quote u
  simp only [encode, List.cons_append, List.append_assoc, List.nil_append, List.cons.injEq,
    true_and] at h
  have he := (hread v r).symm.trans ((congrArg read h).trans (hread w s))
  simpa using he

end Quoted

end BicepTemplates
