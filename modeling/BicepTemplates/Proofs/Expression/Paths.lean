import BicepTemplates.Proofs.Expression.Names
import BicepTemplates.Proofs.Layout.Writing

/-! # Paths and chains

The text of a path is an identifier, possibly with `()` behind it, and any number of identifiers
with a dot in front of each. Exactly these texts are read, as chains of member accesses, and they
are the texts of the chains. Any other text is reported with the first of its pieces that cannot
stand where it does.
-/

namespace BicepTemplates

/-- An identifier, possibly with `()` behind it, and then identifiers, each after a dot. -/
def IsPath (text : List Char) : Prop :=
  ∃ (head call : List Char) (names : List (List Char)), isIdentifierWord head = true ∧
    (call = [] ∨ call = ['(', ')']) ∧ (∀ name ∈ names, isIdentifierWord name = true) ∧
    text = head ++ call ++ names.flatMap ('.' :: ·)

/-- The piece can stand at this position of a path. Only the first may have `()` at its end. -/
def AllowedAt (position : Nat) (piece : List Char) : Prop :=
  isIdentifierWord piece = true ∨
    position = 0 ∧ ∃ function, piece = function ++ ['(', ')'] ∧ isIdentifierWord function = true

/-- The first piece between the dots that cannot stand at its position. -/
def FirstMisplaced (text piece : List Char) : Prop :=
  ∃ front back, text.splitOn '.' = front ++ piece :: back ∧
    (∀ i (h : i < front.length), AllowedAt i front[i]) ∧ ¬ AllowedAt front.length piece

/-- Member accesses on a symbol or on a call without arguments, all names identifiers. -/
inductive Expr.Chain : Expr → Prop where
  | symbol {name : String} (h : isIdentifier name = true) : Chain (.symbol name)
  | call {name : String} (h : isIdentifier name = true) : Chain (.call name [])
  | member {base : Expr} {name : String} (hbase : Chain base) (h : isIdentifier name = true) :
    Chain (.member base name)

section Pieces

variable {text head word : List Char} {names : List (List Char)}

theorem dotted_eq_splitOn (text : List Char) : dotted text = text.splitOn '.' := by
  induction text with
  | nil => simp [dotted]
  | cons c text ih =>
    rw [dotted, List.splitOn_cons_eq_if_modifyHead, ih]
    by_cases hc : c = '.'
    · simp [hc]
    · cases hsplit : text.splitOn '.' with
      | nil => exact absurd hsplit (List.splitOn_ne_nil '.' text)
      | cons piece pieces => simp [hc]

theorem eq_of_splitOn_eq_cons (h : text.splitOn '.' = head :: names) :
    text = head ++ names.flatMap ('.' :: ·) := by
  have htext : ['.'].intercalate (text.splitOn '.') = text := List.intercalate_splitOn '.'
  rw [h, intercalate_cons] at htext
  exact htext.symm

theorem dot_not_mem_of_isIdentifierWord (h : isIdentifierWord word = true) : '.' ∉ word :=
  fun hm => absurd (isWordChar_of_isIdentifierWord h '.' hm) (by decide)

theorem splitOn_append_flatMap (hhead : '.' ∉ head)
    (hnames : ∀ name ∈ names, isIdentifierWord name = true) :
    (head ++ names.flatMap ('.' :: ·)).splitOn '.' = head :: names := by
  have hdots : ∀ piece ∈ head :: names, '.' ∉ piece := by
    rintro piece (_ | ⟨_, hpiece⟩)
    · exact hhead
    · exact dot_not_mem_of_isIdentifierWord (hnames piece hpiece)
  have hsplit := List.splitOn_intercalate '.' hdots (List.cons_ne_nil _ _)
  rwa [intercalate_cons] at hsplit

theorem isBlank_eq_false_of_isWordChar {c : Char} (h : isWordChar c = true) :
    Blank.isBlank c = false := by
  -- All word characters lie between the blanks below and those above.
  have hrange : 48 ≤ c.toNat ∧ c.toNat ≤ 122 := by
    rcases (Bool.or_eq_true _ _).mp h with h | h
    · rcases (Bool.or_eq_true _ _).mp h with h | h
      · rcases (Bool.or_eq_true _ _).mp h with h | h
        · have hupper : 65 ≤ c.toNat ∧ c.toNat ≤ 90 := of_decide_eq_true h
          omega
        · obtain ⟨hfirst, hlast⟩ := (Bool.and_eq_true _ _).mp h
          have hfirst : 97 ≤ c.toNat := of_decide_eq_true hfirst
          have hlast : c.toNat ≤ 122 := of_decide_eq_true hlast
          omega
      · obtain ⟨hfirst, hlast⟩ := (Bool.and_eq_true _ _).mp h
        have hfirst : 48 ≤ c.toNat := of_decide_eq_true hfirst
        have hlast : c.toNat ≤ 57 := of_decide_eq_true hlast
        omega
    · obtain rfl := beq_iff_eq.mp h
      decide
  simp only [Blank.isBlank, Blank.ranges, List.any_cons, List.any_nil, Bool.or_false,
    Bool.or_eq_false_iff, Bool.and_eq_false_iff, decide_eq_false_iff_not]
  omega

theorem all_isBlank_append (h : isIdentifierWord word = true) (text : List Char) :
    (word ++ text).all Blank.isBlank = false := by
  cases word with
  | nil => simp [isIdentifierWord] at h
  | cons c word =>
    have hc := isWordChar_of_isIdentifierWord h c List.mem_cons_self
    simp [isBlank_eq_false_of_isWordChar hc]

theorem allowedAt_succ {position : Nat} :
    AllowedAt (position + 1) word ↔ isIdentifierWord word = true := by
  simp [AllowedAt]

theorem forall_allowedAt_cons {pieces : List (List Char)} :
    (∀ i (h : i < (head :: pieces).length), AllowedAt i (head :: pieces)[i]) ↔
      AllowedAt 0 head ∧ ∀ piece ∈ pieces, isIdentifierWord piece = true := by
  constructor
  · intro h
    refine ⟨h 0 (Nat.zero_lt_succ _), fun piece hpiece => ?_⟩
    obtain ⟨i, hi, rfl⟩ := List.getElem_of_mem hpiece
    exact allowedAt_succ.mp (h (i + 1) (Nat.succ_lt_succ hi))
  · rintro ⟨hhead, hpieces⟩ i hi
    cases i with
    | zero => exact hhead
    | succ i => exact allowedAt_succ.mpr (hpieces _ (List.getElem_mem _))

theorem firstMisplaced_iff {piece : List Char} (h : text.splitOn '.' = head :: names) :
    FirstMisplaced text piece ↔
      ¬ AllowedAt 0 head ∧ piece = head ∨
      AllowedAt 0 head ∧ names.find? (!isIdentifierWord ·) = some piece := by
  rw [FirstMisplaced, h]
  simp only [List.find?_eq_some_iff_append, Bool.not_eq_eq_eq_not, Bool.not_not]
  constructor
  · rintro ⟨_ | ⟨first, front⟩, back, hpieces, hfront, hpiece⟩
    · obtain ⟨rfl, rfl⟩ := List.cons.inj hpieces
      exact .inl ⟨hpiece, rfl⟩
    · obtain ⟨rfl, rfl⟩ := List.cons.inj hpieces
      obtain ⟨hfirst, hfront⟩ := forall_allowedAt_cons.mp hfront
      refine .inr ⟨hfirst, ?_, front, back, rfl, hfront⟩
      exact eq_false_of_ne_true (mt allowedAt_succ.mpr hpiece)
  · rintro (⟨hhead, rfl⟩ | ⟨hhead, hpiece, front, back, rfl, hfront⟩)
    · exact ⟨[], names, rfl, nofun, hhead⟩
    · refine ⟨head :: front, back, rfl, forall_allowedAt_cons.mpr ⟨hhead, hfront⟩, ?_⟩
      exact mt allowedAt_succ.mp (ne_true_of_eq_false hpiece)

end Pieces

namespace Expr

variable {path : String} {text head piece : List Char} {names pieces : List (List Char)}
  {e base : Expr} {x : ExpressionError}

theorem ofHead?_eq_some_iff : ofHead? piece = some e ↔
    isIdentifierWord piece = true ∧ e = .symbol (String.ofList piece) ∨
    ∃ function, piece = function ++ ['(', ')'] ∧ isIdentifierWord function = true ∧
      e = .call (String.ofList function) [] := by
  have hclosed : ∀ function, isIdentifierWord (function ++ ['(', ')']) = false := by
    intro function
    rw [← Bool.not_eq_true]
    intro hword
    exact absurd (isWordChar_of_isIdentifierWord hword '(' (by simp)) (by decide)
  by_cases hword : isIdentifierWord piece = true
  · rw [ofHead?, if_pos hword, Option.some_inj, eq_comm]
    constructor
    · exact fun he => .inl ⟨hword, he⟩
    · rintro (⟨-, he⟩ | ⟨function, rfl, -, -⟩)
      · exact he
      · rw [hclosed] at hword
        cases hword
  · rw [ofHead?, if_neg hword]
    constructor
    · intro h
      split at h
      · next function hreverse =>
        split at h
        · next hfunction =>
          obtain rfl := Option.some.inj h
          refine .inr ⟨function.reverse, ?_, hfunction, rfl⟩
          rw [← List.reverse_reverse piece, hreverse]
          simp
        · cases h
      · cases h
    · rintro (⟨hpiece, -⟩ | ⟨function, rfl, hfunction, rfl⟩)
      · exact absurd hpiece hword
      · simp [hfunction]

theorem exists_ofHead?_iff : (∃ e, ofHead? piece = some e) ↔ AllowedAt 0 piece := by
  simp only [ofHead?_eq_some_iff, AllowedAt, true_and]
  constructor
  · rintro ⟨e, ⟨hword, -⟩ | ⟨function, hpiece, hfunction, -⟩⟩
    · exact .inl hword
    · exact .inr ⟨function, hpiece, hfunction⟩
  · rintro (hword | ⟨function, hpiece, hfunction⟩)
    · exact ⟨_, .inl ⟨hword, rfl⟩⟩
    · exact ⟨_, .inr ⟨function, hpiece, hfunction, rfl⟩⟩

def access (base : Expr) (names : List (List Char)) : Expr :=
  names.foldl (fun e name => .member e (String.ofList name)) base

theorem members_eq_ok_iff : members path base pieces = .ok e ↔
    (∀ piece ∈ pieces, isIdentifierWord piece = true) ∧ e = base.access pieces := by
  induction pieces generalizing base with
  | nil =>
    rw [members, Except.ok.injEq, eq_comm]
    simp [access]
  | cons piece pieces ih =>
    rw [members]
    split
    · next hword => simp [ih, hword, access]
    · next hword => simp [hword]

theorem members_eq_error_iff : members path base pieces = .error x ↔
    ∃ piece, pieces.find? (!isIdentifierWord ·) = some piece ∧
      x = .invalidPathSegment path (String.ofList piece) := by
  induction pieces generalizing base with
  | nil => simp [members]
  | cons piece pieces ih =>
    rw [members]
    split
    · next hword => simp [ih, hword]
    · next hword => simp [hword, eq_comm]

/-- The expression is what the pieces of a path spell. -/
structure Spells (head : List Char) (names : List (List Char)) (e : Expr) : Prop where
  words : ∀ name ∈ names, isIdentifierWord name = true
  eq_access : ∃ base, ofHead? head = some base ∧ e = base.access names

section Spells

theorem chars_access (base : Expr) (names : List (List Char)) :
    (base.access names).chars = base.chars ++ names.flatMap ('.' :: ·) := by
  induction names generalizing base with
  | nil => simp [access]
  | cons name names ih =>
    have hmember : base.access (name :: names) = (member base (String.ofList name)).access names :=
      rfl
    rw [hmember, ih]
    simp [chars]

theorem chars_of_ofHead? (h : ofHead? head = some base) : base.chars = head := by
  rcases ofHead?_eq_some_iff.mp h with ⟨-, rfl⟩ | ⟨function, rfl, -, rfl⟩
  · simp [chars]
  · simp [chars, argsChars]

theorem Spells.chars (h : Spells head names e) : e.chars = head ++ names.flatMap ('.' :: ·) := by
  obtain ⟨base, hbase, rfl⟩ := h.eq_access
  rw [chars_access, chars_of_ofHead? hbase]

theorem Spells.exists_head (h : Spells head names e) :
    ∃ word call, isIdentifierWord word = true ∧ (call = [] ∨ call = ['(', ')']) ∧
      head = word ++ call := by
  -- the first piece starts with an identifier, and `()` is all that can stand behind it
  obtain ⟨base, hbase, -⟩ := h.eq_access
  rcases ofHead?_eq_some_iff.mp hbase with ⟨hword, -⟩ | ⟨function, rfl, hfunction, -⟩
  · exact ⟨head, [], hword, .inl rfl, (List.append_nil _).symm⟩
  · exact ⟨function, ['(', ')'], hfunction, .inr rfl, rfl⟩

theorem Spells.splitOn (h : Spells head names e) : e.chars.splitOn '.' = head :: names := by
  obtain ⟨word, call, hword, hcall, rfl⟩ := h.exists_head
  rw [h.chars]
  refine splitOn_append_flatMap ?_ h.words
  have hdot := dot_not_mem_of_isIdentifierWord hword
  rcases hcall with rfl | rfl <;> simp [hdot]

theorem Spells.not_blank (h : Spells head names e) : e.chars.all Blank.isBlank = false := by
  obtain ⟨word, call, hword, -, rfl⟩ := h.exists_head
  rw [h.chars, List.append_assoc]
  exact all_isBlank_append hword _

theorem chain_access (hbase : base.Chain) (h : ∀ name ∈ names, isIdentifierWord name = true) :
    (base.access names).Chain := by
  induction names generalizing base with
  | nil => exact hbase
  | cons name names ih =>
    obtain ⟨hname, hnames⟩ := List.forall_mem_cons.mp h
    exact ih (.member hbase (isIdentifier_ofList hname)) hnames

theorem Spells.chain (h : Spells head names e) : e.Chain := by
  obtain ⟨base, hbase, rfl⟩ := h.eq_access
  refine chain_access ?_ h.words
  rcases ofHead?_eq_some_iff.mp hbase with ⟨hword, rfl⟩ | ⟨function, -, hfunction, rfl⟩
  · exact .symbol (isIdentifier_ofList hword)
  · exact .call (isIdentifier_ofList hfunction)

theorem Chain.exists_spells (h : e.Chain) : ∃ head names, Spells head names e := by
  -- a member adds a piece at the end, so the pieces of its base come first
  induction h with
  | symbol h =>
    have hhead := ofHead?_eq_some_iff.mpr (.inl ⟨h, rfl⟩)
    exact ⟨_, [], List.forall_mem_nil _, _, hhead, by simp [access]⟩
  | call h =>
    have hhead := ofHead?_eq_some_iff.mpr (.inr ⟨_, rfl, h, rfl⟩)
    exact ⟨_, [], List.forall_mem_nil _, _, hhead, by simp [access]⟩
  | @member base name _ h ih =>
    obtain ⟨head, names, hnames, first, hfirst, rfl⟩ := ih
    refine ⟨head, names ++ [name.toList], ?_, first, hfirst, by simp [access]⟩
    exact List.forall_mem_append.mpr ⟨hnames, List.forall_mem_singleton.mpr h⟩

theorem isPath_iff : IsPath text ↔ ∃ head names e, Spells head names e ∧ e.chars = text := by
  constructor
  · rintro ⟨word, call, names, hword, hcall, hnames, rfl⟩
    have hhead : ∃ base, ofHead? (word ++ call) = some base := by
      rw [exists_ofHead?_iff]
      rcases hcall with rfl | rfl
      · exact .inl (by rwa [List.append_nil])
      · exact .inr ⟨rfl, word, rfl, hword⟩
    obtain ⟨base, hbase⟩ := hhead
    have hspells : Spells (word ++ call) names (base.access names) := ⟨hnames, base, hbase, rfl⟩
    exact ⟨_, _, _, hspells, hspells.chars⟩
  · rintro ⟨head, names, e, h, rfl⟩
    obtain ⟨word, call, hword, hcall, rfl⟩ := h.exists_head
    exact ⟨word, call, names, hword, hcall, h.words, h.chars⟩

end Spells

theorem ofPath_of_blank (h : path.toList.all Blank.isBlank = true) :
    ofPath path = .error .emptyPath := by
  rw [ofPath, if_pos h]

theorem ofPath_of_splitOn (hblank : path.toList.all Blank.isBlank = false)
    (h : path.toList.splitOn '.' = head :: names) : ofPath path = match ofHead? head with
      | some base => members path base names
      | none => .error (.invalidPathSegment path (String.ofList head)) := by
  have hdotted : dotted path.toList = head :: names := (dotted_eq_splitOn _).trans h
  cases hhead : ofHead? head with
  | none => simp [ofPath, hblank, hdotted, hhead]
  | some base => simp [ofPath, hblank, hdotted, hhead]

/-- What is read is spelled by the text, and whatever a text spells is read. -/
theorem ofPath_eq_ok_iff :
    ofPath path = .ok e ↔ ∃ head names, Spells head names e ∧ e.chars = path.toList := by
  constructor
  · intro h
    cases hblank : path.toList.all Blank.isBlank with
    | true => rw [ofPath_of_blank hblank] at h; cases h
    | false =>
      obtain ⟨head, names, hsplit⟩ := List.exists_cons_of_ne_nil
        (List.splitOn_ne_nil '.' path.toList)
      rw [ofPath_of_splitOn hblank hsplit] at h
      cases hhead : ofHead? head with
      | none => rw [hhead] at h; cases h
      | some base =>
        rw [hhead] at h
        obtain ⟨hnames, rfl⟩ := members_eq_ok_iff.mp h
        have hspells : Spells head names (base.access names) := ⟨hnames, base, hhead, rfl⟩
        exact ⟨head, names, hspells, by rw [hspells.chars, eq_of_splitOn_eq_cons hsplit]⟩
  · rintro ⟨head, names, h, hpath⟩
    have hsplit := h.splitOn
    have hblank := h.not_blank
    rw [hpath] at hsplit hblank
    obtain ⟨base, hbase, rfl⟩ := h.eq_access
    rw [ofPath_of_splitOn hblank hsplit, hbase]
    exact members_eq_ok_iff.mpr ⟨h.words, rfl⟩

/-- Only blank text counts as empty. Of any other text that is no path, one piece is reported. -/
theorem ofPath_eq_error_iff : ofPath path = .error x ↔
    path.toList.all Blank.isBlank = true ∧ x = .emptyPath ∨
    path.toList.all Blank.isBlank = false ∧ ∃ piece, FirstMisplaced path.toList piece ∧
      x = .invalidPathSegment path (String.ofList piece) := by
  cases hblank : path.toList.all Blank.isBlank with
  | true => simp [ofPath_of_blank hblank, eq_comm]
  | false =>
    obtain ⟨head, names, hsplit⟩ := List.exists_cons_of_ne_nil
      (List.splitOn_ne_nil '.' path.toList)
    simp only [ofPath_of_splitOn hblank hsplit, firstMisplaced_iff hsplit, ← exists_ofHead?_iff]
    cases hhead : ofHead? head with
    | none => simpa using eq_comm
    | some base => simp [members_eq_error_iff]

/-- Exactly the paths are read, as chains with the same text, and each chain is read from its text.
Blank text is reported as empty, and other text with its first piece that is out of place. -/
theorem ofPath_exact (path : String) :
    ((∃ e, ofPath path = .ok e) ↔ IsPath path.toList) ∧
      (∀ e, ofPath path = .ok e → e.Chain ∧ e.render = path) ∧
      (∀ e : Expr, e.Chain → ofPath e.render = .ok e) ∧
      ∀ x, ofPath path = .error x ↔
        path.toList.all Blank.isBlank = true ∧ x = .emptyPath ∨
        path.toList.all Blank.isBlank = false ∧ ∃ piece, FirstMisplaced path.toList piece ∧
          x = .invalidPathSegment path (String.ofList piece) := by
  refine ⟨?_, fun e he => ?_, fun e he => ?_, fun x => ofPath_eq_error_iff⟩
  · simp only [ofPath_eq_ok_iff, isPath_iff]
    constructor
    · rintro ⟨e, head, names, h, hpath⟩
      exact ⟨head, names, e, h, hpath⟩
    · rintro ⟨head, names, e, h, hpath⟩
      exact ⟨e, head, names, h, hpath⟩
  · obtain ⟨head, names, h, hpath⟩ := ofPath_eq_ok_iff.mp he
    exact ⟨h.chain, by rw [render, hpath, String.ofList_toList]⟩
  · obtain ⟨head, names, h⟩ := he.exists_spells
    exact ofPath_eq_ok_iff.mpr ⟨head, names, h, (String.toList_ofList).symm⟩

theorem ofPath_exact_location :
    (member (call "resourceGroup" []) "location").Chain ∧
      ofPath (member (call "resourceGroup" []) "location").render =
        .ok (member (call "resourceGroup" []) "location") ∧
      FirstMisplaced "a..b()".toList [] ∧
      ofPath "a..b()" = .error (.invalidPathSegment "a..b()" "") := by
  have hchain : (member (call "resourceGroup" []) "location").Chain :=
    .member (.call (by decide)) (by decide)
  have hsplit : "a..b()".toList.splitOn '.' = ['a'] :: [[], "b()".toList] := by decide
  have hpiece : FirstMisplaced "a..b()".toList [] :=
    (firstMisplaced_iff hsplit).mpr (.inr ⟨.inl (by decide), by decide⟩)
  refine ⟨hchain, (ofPath_exact "").2.2.1 _ hchain, hpiece, ?_⟩
  exact ((ofPath_exact "a..b()").2.2.2 _).mpr (.inr ⟨by decide, [], hpiece, rfl⟩)

end Expr

end BicepTemplates
