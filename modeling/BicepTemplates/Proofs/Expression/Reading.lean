import BicepTemplates.Proofs.Expression.WellFormed
import BicepTemplates.Proofs.Text.Reading

/-! # Reading expressions

The text of an expression says where it ends and what it stands for. A reader takes the longest
expression off the front of a text. Whatever follows a well-formed expression, as long as it does
not go on with it, the reader gives back the expression and the rest. So no two well-formed
expressions share a text, and none is the beginning of another.
-/

namespace BicepTemplates

/-- Characters with which a member access or a call goes on behind a name. -/
def goesOn (c : Char) : Bool :=
  isWordChar c || c == '.' || c == '('

/-- Characters with which anything but a member access goes on. -/
def goesOnInName (c : Char) : Bool :=
  isWordChar c || c == '('

def opensExpr (c : Char) : Bool :=
  isWordChar c || c == '\'' || c == '-'

def Expr.ofSegments : Segments → Expr
  | .last literal => .text literal
  | .next first hole rest => .interpolation first hole rest

/-- What a bare word stands for. -/
def Expr.ofWord (word : List Char) : Expr :=
  if word = "true".toList then .bool true
  else if word = "false".toList then .bool false
  else if word.all Char.isDigit then .int (Nat.ofDigitChars 10 word 0)
  else .symbol (String.ofList word)

def readMembers (base : Expr) (text : List Char) : Expr × List Char :=
  match text with
  | '.' :: rest =>
    readMembers (.member base (String.ofList (rest.takeWhile isWordChar)))
      (rest.dropWhile isWordChar)
  | rest => (base, rest)
termination_by text.length
decreasing_by exact Nat.lt_succ_of_le (List.dropWhile_sublist _).length_le

mutual

/-- The longest expression at the front and what follows. The number bounds the steps. -/
def readExpr : Nat → List Char → Option (Expr × List Char)
  | 0, _ => none
  | steps + 1, '\'' :: text => do
    let (segments, rest) ← readSegments steps text
    return readMembers (.ofSegments segments) rest
  | _ + 1, '-' :: text =>
    some (readMembers (.int (-Nat.ofDigitChars 10 (text.takeWhile isWordChar) 0))
      (text.dropWhile isWordChar))
  | steps + 1, text =>
    readAfterWord steps (text.takeWhile isWordChar) (text.dropWhile isWordChar)

def readAfterWord : Nat → List Char → List Char → Option (Expr × List Char)
  | 0, _, _ => none
  | _ + 1, word, '(' :: ')' :: rest => some (readMembers (.call (String.ofList word) []) rest)
  | steps + 1, word, '(' :: rest => do
    let (arg, rest) ← readExpr steps rest
    let (args, rest) ← readMoreArgs steps rest
    return readMembers (.call (String.ofList word) (arg :: args)) rest
  | _ + 1, word, rest => some (readMembers (.ofWord word) rest)

def readMoreArgs : Nat → List Char → Option (List Expr × List Char)
  | _ + 1, ')' :: rest => some ([], rest)
  | steps + 1, ',' :: rest => do
    let (arg, rest) ← readExpr steps rest
    let (args, rest) ← readMoreArgs steps rest
    return (arg :: args, rest)
  | _, _ => none

def readSegments : Nat → List Char → Option (Segments × List Char)
  | 0, _ => none
  | steps + 1, text => do
    match ← Quoted.read text with
    | (literal, .quote, rest) => return (.last (String.ofList literal), rest)
    | (literal, .hole, rest) =>
      match ← readExpr steps rest with
      | (hole, '}' :: rest) =>
        let (more, rest) ← readSegments steps rest
        return (.next (String.ofList literal) hole more, rest)
      | _ => none

end

theorem readMembers_of_ends {base : Expr} {rest : List Char} (h : Ends goesOn rest) :
    readMembers base rest = (base, rest) := by
  unfold readMembers
  split
  · simp [goesOn] at h
  · rfl

theorem readMembers_member {base : Expr} {name : String} {rest : List Char}
    (hn : isIdentifier name = true) (h : Ends isWordChar rest) :
    readMembers base ('.' :: (name.toList ++ rest)) = readMembers (.member base name) rest := by
  have hw := isWordChar_of_isIdentifierWord hn
  rw [readMembers, takeWhile_append_of_ends hw h, dropWhile_append_of_ends hw h,
    String.ofList_toList]

section Word

variable {steps : Nat} {word rest : List Char}

theorem readExpr_word (hw : ∀ c ∈ word, isWordChar c = true) (hne : word ≠ [])
    (hr : Ends isWordChar rest) :
    readExpr (steps + 1) (word ++ rest) = readAfterWord steps word rest := by
  rw [readExpr, takeWhile_append_of_ends hw hr, dropWhile_append_of_ends hw hr]
  all_goals
    intro text he
    obtain ⟨c, word, rfl⟩ := List.exists_cons_of_ne_nil hne
    simp only [List.cons_append, List.cons.injEq] at he
    have hc := hw c List.mem_cons_self
    rw [he.1] at hc
    exact absurd hc (by decide)

theorem readAfterWord_of_ends (hr : Ends goesOnInName rest) :
    readAfterWord (steps + 1) word rest = some (readMembers (.ofWord word) rest) := by
  rw [readAfterWord]
  all_goals
    rintro text rfl
    simp [goesOnInName] at hr

end Word

theorem readSegments_last (literal : String) (steps : Nat) (rest : List Char) :
    readSegments (steps + 1) ((Segments.last literal).chars ++ rest) =
      some (.last literal, rest) := by
  have hq := Quoted.read_escape literal.toList .quote rest
  simp only [Quoted.Stop.chars, List.cons_append, List.nil_append] at hq
  simp [Segments.chars, readSegments, hq]

theorem readSegments_next (literal : String) {hole : Expr} {more : Segments} {steps : Nat}
    {rest : List Char}
    (hh : readExpr steps (hole.chars ++ '}' :: (more.chars ++ rest)) =
      some (readMembers hole ('}' :: (more.chars ++ rest))))
    (hm : readSegments steps (more.chars ++ rest) = some (more, rest)) :
    readSegments (steps + 1) ((Segments.next literal hole more).chars ++ rest) =
      some (.next literal hole more, rest) := by
  have hq := Quoted.read_escape literal.toList .hole (hole.chars ++ '}' :: (more.chars ++ rest))
  rw [readMembers_of_ends (ends_cons.mpr (by decide))] at hh
  simp only [Quoted.Stop.chars, List.cons_append, List.nil_append] at hq
  simp [Segments.chars, readSegments, hq, hh, hm]

theorem readAfterWord_open {steps : Nat} {word rest : List Char} (h : Ends (· == ')') rest) :
    readAfterWord (steps + 1) word ('(' :: rest) = do
      let (arg, rest) ← readExpr steps rest
      let (args, rest) ← readMoreArgs steps rest
      return readMembers (.call (String.ofList word) (arg :: args)) rest := by
  rw [readAfterWord]
  rintro text rfl
  simp at h

theorem isWordChar_of_mem_toDigits {n : Nat} {c : Char} (h : c ∈ Nat.toDigits 10 n) :
    isWordChar c = true := by
  have hd := Nat.isDigit_of_mem_toDigits (by decide) (by decide) h
  simp [isWordChar, Char.isAlphanum, hd]

theorem ofWord_toDigits (n : Nat) : Expr.ofWord (Nat.toDigits 10 n) = .int (.ofNat n) := by
  have hd : ∀ c ∈ Nat.toDigits 10 n, c.isDigit = true :=
    fun c hc => Nat.isDigit_of_mem_toDigits (by decide) (by decide) hc
  have ht : Nat.toDigits 10 n ≠ "true".toList := by
    intro he
    exact absurd (hd 't' (he ▸ by decide)) (by decide)
  have hf : Nat.toDigits 10 n ≠ "false".toList := by
    intro he
    exact absurd (hd 'f' (he ▸ by decide)) (by decide)
  rw [Expr.ofWord, if_neg ht, if_neg hf, if_pos (List.all_eq_true.mpr hd),
    Nat.ofDigitChars_ten_toDigits]
  rfl

theorem ofWord_symbol {name : String} (h : (Expr.symbol name).isWellFormed = true) :
    Expr.ofWord name.toList = .symbol name := by
  simp only [Expr.isWellFormed, Bool.and_eq_true, bne_iff_ne, ne_eq] at h
  obtain ⟨⟨hi, ht⟩, hf⟩ := h
  rw [Expr.ofWord, if_neg (mt String.toList_inj.mp ht), if_neg (mt String.toList_inj.mp hf),
    all_isDigit_eq_false_of_isIdentifierWord hi, if_neg (by decide), String.ofList_toList]

theorem goesOnInName_of_isWordChar (c : Char) (h : isWordChar c = true) :
    goesOnInName c = true := by
  simp [goesOnInName, h]

theorem goesOn_of_goesOnInName (c : Char) (h : goesOnInName c = true) : goesOn c = true := by
  simp only [goesOnInName, Bool.or_eq_true] at h
  simp only [goesOn, Bool.or_eq_true]
  exact h.imp_left .inl

theorem ends_moreArgsChars (args : List Expr) (rest : List Char) :
    Ends goesOn (moreArgsChars args ++ ')' :: rest) := by
  cases args with
  | nil => exact ends_cons.mpr (by decide)
  | cons arg args => exact ends_cons.mpr (by decide)

theorem exists_chars_eq_cons : ∀ (e : Expr), e.isWellFormed = true →
    ∃ c text, e.chars = c :: text ∧ opensExpr c = true
  | .text _, _ => ⟨_, _, rfl, by decide⟩
  | .int (.ofNat n), _ => by
    obtain ⟨c, text, he⟩ := List.exists_cons_of_ne_nil (Nat.toDigits_ne_nil (n := n) (b := 10))
    have hc := isWordChar_of_mem_toDigits (n := n) (c := c) (he ▸ List.mem_cons_self)
    exact ⟨c, text, he, by simp [opensExpr, hc]⟩
  | .int (.negSucc _), _ => ⟨_, _, rfl, by decide⟩
  | .bool true, _ => ⟨_, _, rfl, by decide⟩
  | .bool false, _ => ⟨_, _, rfl, by decide⟩
  | .symbol name, hw => by
    simp only [Expr.isWellFormed, Bool.and_eq_true] at hw
    obtain ⟨c, text, he⟩ := List.exists_cons_of_ne_nil (ne_nil_of_isIdentifierWord hw.1.1)
    have hc := isWordChar_of_isIdentifierWord hw.1.1 c (he ▸ List.mem_cons_self)
    exact ⟨c, text, he, by simp [opensExpr, hc]⟩
  | .call name args, hw => by
    simp only [Expr.isWellFormed, Bool.and_eq_true] at hw
    obtain ⟨c, text, he⟩ := List.exists_cons_of_ne_nil (ne_nil_of_isIdentifierWord hw.1)
    have hc := isWordChar_of_isIdentifierWord hw.1 c (he ▸ List.mem_cons_self)
    exact ⟨c, _, by rw [Expr.chars, he]; rfl, by simp [opensExpr, hc]⟩
  | .member base name, hw => by
    simp only [Expr.isWellFormed, Bool.and_eq_true] at hw
    obtain ⟨c, text, he, hc⟩ := exists_chars_eq_cons base hw.1
    exact ⟨c, _, by rw [Expr.chars, he, List.cons_append], hc⟩
  | .interpolation _ _ _, _ => ⟨_, _, rfl, by decide⟩

theorem ends_chars_append {e : Expr} (he : e.isWellFormed = true) {d : Char}
    (hd : opensExpr d = false) (rest : List Char) : Ends (· == d) (e.chars ++ rest) := by
  obtain ⟨c, text, hc, ho⟩ := exists_chars_eq_cons e he
  rw [hc, List.cons_append, ends_cons, beq_eq_false_iff_ne]
  rintro rfl
  simp [ho] at hd

mutual

/-- The reader gives an expression back, and goes on with the members that follow it. -/
theorem readExpr_chars : ∀ (e : Expr) (steps : Nat) (rest : List Char),
    e.isWellFormed = true → e.chars.length < steps → Ends goesOnInName rest →
    readExpr steps (e.chars ++ rest) = some (readMembers e rest)
  | e, 0, rest, _, hl, _ => absurd hl (Nat.not_lt_zero _)
  | .text value, steps + 1, rest, _, hl, _ => by
    simp only [Expr.chars, Quoted.encode, List.length_cons, List.length_append] at hl
    obtain ⟨steps, rfl⟩ : ∃ n, steps = n + 1 := ⟨steps - 1, by omega⟩
    have hs := readSegments_last value steps rest
    simp only [Segments.chars, List.append_assoc, List.singleton_append] at hs
    simp [Expr.chars, Quoted.encode, readExpr, hs, Expr.ofSegments]
  | .int (.ofNat n), steps + 1, rest, _, hl, hr => by
    have hd := fun c => isWordChar_of_mem_toDigits (n := n) (c := c)
    obtain ⟨steps, rfl⟩ : ∃ n, steps = n + 1 := ⟨steps - 1, by
      have := Nat.length_toDigits_pos (b := 10) (n := n)
      simp only [Expr.chars, decimal] at hl
      omega⟩
    rw [Expr.chars, decimal, readExpr_word hd Nat.toDigits_ne_nil
      (hr.mono goesOnInName_of_isWordChar), readAfterWord_of_ends hr, ofWord_toDigits]
  | .int (.negSucc n), steps + 1, rest, _, _, hr => by
    have hd := fun c => isWordChar_of_mem_toDigits (n := n + 1) (c := c)
    have hr' := hr.mono goesOnInName_of_isWordChar
    rw [Expr.chars, decimal, List.cons_append, readExpr, takeWhile_append_of_ends hd hr',
      dropWhile_append_of_ends hd hr', Nat.ofDigitChars_ten_toDigits, Int.negSucc_eq]
    rfl
  | .bool true, steps + 2, rest, _, _, hr => by
    rw [Expr.chars, readExpr_word (List.all_eq_true.mp rfl) (by decide) (hr.mono goesOnInName_of_isWordChar),
      readAfterWord_of_ends hr]
    rfl
  | .bool false, steps + 2, rest, _, _, hr => by
    rw [Expr.chars, readExpr_word (List.all_eq_true.mp rfl) (by decide) (hr.mono goesOnInName_of_isWordChar),
      readAfterWord_of_ends hr]
    rfl
  | .symbol name, steps + 1, rest, hw, hl, hr => by
    have hi : isIdentifierWord name.toList = true := by
      simp only [Expr.isWellFormed, Bool.and_eq_true] at hw
      exact hw.1.1
    have hn := List.length_pos_iff.mpr (ne_nil_of_isIdentifierWord hi)
    simp only [Expr.chars] at hl
    obtain ⟨steps, rfl⟩ : ∃ n, steps = n + 1 := ⟨steps - 1, by omega⟩
    rw [Expr.chars,
      readExpr_word (isWordChar_of_isIdentifierWord hi) (ne_nil_of_isIdentifierWord hi)
        (hr.mono goesOnInName_of_isWordChar), readAfterWord_of_ends hr, ofWord_symbol hw]
  | .call name args, steps + 1, rest, hw, hl, _ => by
    simp only [Expr.isWellFormed, Bool.and_eq_true] at hw
    have hn := List.length_pos_iff.mpr (ne_nil_of_isIdentifierWord hw.1)
    simp only [Expr.chars, List.length_append, List.length_cons] at hl
    obtain ⟨steps, rfl⟩ : ∃ n, steps = n + 1 := ⟨steps - 1, by omega⟩
    have hword : readExpr (steps + 2) (name.toList ++ '(' :: (argsChars args ++ ')' :: rest)) =
        readAfterWord (steps + 1) name.toList ('(' :: (argsChars args ++ ')' :: rest)) :=
      readExpr_word (isWordChar_of_isIdentifierWord hw.1) (ne_nil_of_isIdentifierWord hw.1)
        (ends_cons.mpr (by decide))
    simp only [Expr.chars, List.append_assoc, List.cons_append, List.nil_append, hword]
    cases args with
    | nil => simp [argsChars, readAfterWord]
    | cons arg args =>
      simp only [argsWellFormed, Bool.and_eq_true] at hw
      simp only [argsChars, List.length_append] at hl
      have hm := ends_moreArgsChars args rest
      have ha := readExpr_chars arg steps (moreArgsChars args ++ ')' :: rest) hw.2.1 (by omega)
        (hm.mono goesOn_of_goesOnInName)
      rw [readMembers_of_ends hm] at ha
      rw [argsChars, List.append_assoc,
        readAfterWord_open (ends_chars_append hw.2.1 (by decide) _), ha]
      simp [readMoreArgs_chars args steps rest hw.2.2 (by omega)]
  | .member base name, steps + 1, rest, hw, hl, hr => by
    simp only [Expr.isWellFormed, Bool.and_eq_true] at hw
    simp only [Expr.chars, List.length_append, List.length_cons] at hl
    have hb := readExpr_chars base (steps + 1) ('.' :: (name.toList ++ rest)) hw.1 (by omega)
      (by simp [goesOnInName, isWordChar])
    rw [Expr.chars, List.append_assoc, List.cons_append, hb,
      readMembers_member hw.2 (hr.mono goesOnInName_of_isWordChar)]
  | .interpolation first hole more, steps + 1, rest, hw, hl, _ => by
    simp only [Expr.isWellFormed, Bool.and_eq_true] at hw
    simp only [Expr.chars, List.length_append, List.length_cons] at hl
    obtain ⟨steps, rfl⟩ : ∃ n, steps = n + 1 := ⟨steps - 1, by omega⟩
    have hs := readSegments_next first
      (readExpr_chars hole steps ('}' :: (more.chars ++ rest)) hw.1 (by omega)
        (ends_cons.mpr (by decide)))
      (readSegments_chars more steps rest hw.2 (by omega))
    simp only [Segments.chars, List.append_assoc, List.cons_append] at hs
    simp [Expr.chars, readExpr, hs, Expr.ofSegments]

theorem readMoreArgs_chars : ∀ (args : List Expr) (steps : Nat) (rest : List Char),
    argsWellFormed args = true → (moreArgsChars args).length < steps →
    readMoreArgs steps (moreArgsChars args ++ ')' :: rest) = some (args, rest)
  | args, 0, rest, _, hl => absurd hl (Nat.not_lt_zero _)
  | [], steps + 1, rest, _, _ => rfl
  | arg :: args, steps + 1, rest, hw, hl => by
    simp only [argsWellFormed, Bool.and_eq_true] at hw
    simp only [moreArgsChars, List.length_append, List.length_cons] at hl
    have ha := readExpr_chars arg steps (moreArgsChars args ++ ')' :: rest) hw.1 (by omega)
      ((ends_moreArgsChars args rest).mono goesOn_of_goesOnInName)
    rw [readMembers_of_ends (ends_moreArgsChars args rest)] at ha
    simp [moreArgsChars, readMoreArgs, ha, readMoreArgs_chars args steps rest hw.2 (by omega)]

theorem readSegments_chars : ∀ (s : Segments) (steps : Nat) (rest : List Char),
    s.isWellFormed = true → s.chars.length < steps →
    readSegments steps (s.chars ++ rest) = some (s, rest)
  | s, 0, rest, _, hl => absurd hl (Nat.not_lt_zero _)
  | .last literal, steps + 1, rest, _, _ => readSegments_last literal steps rest
  | .next literal hole more, steps + 1, rest, hw, hl => by
    simp only [Segments.isWellFormed, Bool.and_eq_true] at hw
    simp only [Segments.chars, List.length_append, List.length_cons] at hl
    exact readSegments_next literal
      (readExpr_chars hole steps _ hw.1 (by omega) (ends_cons.mpr (by decide)))
      (readSegments_chars more steps rest hw.2 (by omega))

end

namespace Expr

variable {v w : Expr}

theorem chars_append_inj (hv : v.isWellFormed = true) (hw : w.isWellFormed = true)
    {r s : List Char} (hr : Ends goesOn r) (hs : Ends goesOn s)
    (h : v.chars ++ r = w.chars ++ s) : v = w ∧ r = s := by
  have hread : ∀ {e : Expr} {t : List Char}, e.isWellFormed = true → Ends goesOn t →
      readExpr ((e.chars ++ t).length + 1) (e.chars ++ t) = some (e, t) := by
    intro e t he ht
    rw [readExpr_chars e _ t he (by rw [List.length_append]; omega)
      (ht.mono goesOn_of_goesOnInName), readMembers_of_ends ht]
  have hvr := hread hv hr
  rw [h, hread hw hs] at hvr
  simpa [eq_comm] using hvr

/-- Well-formed expressions are told apart by their text, even where more text follows. -/
theorem render_self_delimiting (hv : v.isWellFormed = true) (hw : w.isWellFormed = true) :
    (v.render = w.render → v = w) ∧
      ∀ r s : String, Ends goesOn r.toList → Ends goesOn s.toList →
        v.render ++ r = w.render ++ s → v = w ∧ r = s := by
  constructor
  · intro h
    have hc : v.chars ++ [] = w.chars ++ [] := by
      simpa [render] using congrArg String.toList h
    exact (chars_append_inj hv hw ends_nil ends_nil hc).1
  · intro r s hr hs h
    have hc : v.chars ++ r.toList = w.chars ++ s.toList := by
      simpa [render] using congrArg String.toList h
    obtain ⟨he, ht⟩ := chars_append_inj hv hw hr hs hc
    exact ⟨he, String.toList_inj.mp ht⟩

/-- A string that spells out a hole is not the string that has the hole. -/
theorem render_escaped_hole_ne :
    (text "$\x7bx\x7d").isWellFormed = true ∧
      (interpolation "" (symbol "x") (.last "")).isWellFormed = true ∧
      (text "$\x7bx\x7d").render ≠ (interpolation "" (symbol "x") (.last "")).render :=
  ⟨rfl, by decide, fun h => nomatch (render_self_delimiting rfl (by decide)).1 h⟩

end Expr

end BicepTemplates
