import BicepTemplates.Proofs.Document.Writing
import BicepTemplates.Proofs.Property.Erasure

/-! # Documents up to suppressed names

Every description, type and key is a literal or a bare word, so that nothing in it can be taken
for the line that follows. Blocks are told apart by the first character behind their blank line.
The text of a document therefore determines what it declares, up to the names in the bodies that
are never written.
-/

namespace BicepTemplates

open Layout

def Parameter.isWellFormed (p : Parameter) : Bool :=
  p.default.all Expr.isWellFormed

/-- Whatever is constructed as the body shows well-formed expressions only. -/
def Resource.isWellFormed (r : Resource) : Bool :=
  match r.body with
  | .ok body => propertiesWellFormed body
  | .error _ => true

/-- All expressions the document shows are well formed, the symbols that bodies refer to among
them. Types, descriptions and keys are arbitrary. -/
def Document.isWellFormed (d : Document) : Bool :=
  d.parameters.all Parameter.isWellFormed && d.declarations.all Resource.isWellFormed &&
    d.outputs.all (·.value.isWellFormed)

def Declared.erase (r : Declared) : Declared :=
  { r with body := eraseProperties r.body }

/-- A block is followed by the end of the text or of the line. -/
def goesOnInLine (c : Char) : Bool :=
  c != '\n'

section Words

variable {m n : Name} {t u : ValueType} {r s : List Char}

theorem Ends.of_line {p : Char → Bool} (hp : p '\n' = false) (h : Ends goesOnInLine r) :
    Ends p r := by
  refine h.mono fun c hc => ?_
  have hne : c ≠ '\n' := by
    rintro rfl
    exact absurd hc (by simp [hp])
  simpa [goesOnInLine] using hne

theorem Name.append_inj (hr : Ends isWordChar r) (hs : Ends isWordChar s)
    (h : m.text.toList ++ r = n.text.toList ++ s) : m = n ∧ r = s := by
  obtain ⟨hmn, ht⟩ := run_append_inj m.isWordChar_of_mem n.isWordChar_of_mem hr hs h
  exact ⟨Name.eq_of_text_eq (String.toList_inj.mp hmn), ht⟩

theorem ValueType.isWordChar_of_mem (t : ValueType) :
    ∀ c ∈ t.text.toList, isWordChar c = true := by
  cases t <;> exact List.all_eq_true.mp rfl

theorem ValueType.toList_text_inj (h : t.text.toList = u.text.toList) : t = u := by
  revert h
  cases t <;> cases u <;> decide

theorem typed_append_inj (hr : Ends isWordChar r) (hs : Ends isWordChar s)
    (h : m.text.toList ++ ([' '] ++ (t.text.toList ++ r)) =
      n.text.toList ++ ([' '] ++ (u.text.toList ++ s))) : m = n ∧ t = u ∧ r = s := by
  have hspace : ∀ v : List Char, Ends isWordChar ([' '] ++ v) :=
    fun _ => ends_cons.mpr (by decide)
  obtain ⟨hmn, htail⟩ := Name.append_inj (hspace _) (hspace _) h
  rw [List.append_cancel_left_eq] at htail
  obtain ⟨htu, ht⟩ := run_append_inj t.isWordChar_of_mem u.isWordChar_of_mem hr hs htail
  exact ⟨hmn, ValueType.toList_text_inj htu, ht⟩

end Words

section Parameters

variable {p q : Parameter} {v w : Option Expr} {a b : Option String} {r s : List Char}

theorem defaultChars_some_eq_cons (value : Expr) :
    ∃ text, defaultChars (some value) = ' ' :: text := by
  have hequals : " = ".toList = [' ', '=', ' '] := rfl
  rw [defaultChars_some, hequals]
  exact ⟨_, rfl⟩

theorem ends_defaultChars_append (v : Option Expr) (hr : Ends goesOnInLine r) :
    Ends isWordChar (defaultChars v ++ r) := by
  cases v with
  | none => exact hr.of_line (by decide)
  | some value =>
    obtain ⟨text, htext⟩ := defaultChars_some_eq_cons value
    rw [htext]
    exact ends_cons.mpr (by decide)

theorem defaultChars_append_inj (hv : v.all Expr.isWellFormed = true)
    (hw : w.all Expr.isWellFormed = true) (hr : Ends goesOnInLine r) (hs : Ends goesOnInLine s)
    (h : defaultChars v ++ r = defaultChars w ++ s) : v = w ∧ r = s := by
  have hsome : ∀ (value : Expr) (t : List Char),
      ¬ Ends goesOnInLine (defaultChars (some value) ++ t) := by
    intro value t he
    obtain ⟨text, htext⟩ := defaultChars_some_eq_cons value
    rw [htext] at he
    exact absurd (ends_cons.mp he) (by decide)
  cases v with
  | none =>
    cases w with
    | none => exact ⟨rfl, h⟩
    | some value => exact absurd (h ▸ hr) (hsome value s)
  | some value =>
    cases w with
    | none => exact absurd (h ▸ hs) (hsome value r)
    | some value' =>
      rw [defaultChars_some, defaultChars_some, List.append_assoc, List.append_assoc,
        List.append_cancel_left_eq] at h
      obtain ⟨rfl, ht⟩ := Expr.chars_append_inj (Option.all_some.symm.trans hv)
        (Option.all_some.symm.trans hw) (hr.of_line (by decide)) (hs.of_line (by decide)) h
      exact ⟨rfl, ht⟩

theorem description_append_inj {level : Level}
    (h : descriptionChars level a ++ ("param ".toList ++ r) =
      descriptionChars level b ++ ("param ".toList ++ s)) : a = b ∧ r = s := by
  have hmixed : ∀ (text : String) (u v : List Char),
      descriptionChars level (some text) ++ u ≠ "param ".toList ++ v := by
    intro text u v he
    have hat : "@description(".toList = '@' :: "description(".toList := rfl
    have hparam : "param ".toList = 'p' :: "aram ".toList := rfl
    rw [descriptionChars_some, hat, hparam] at he
    exact absurd (List.cons.inj he).1 (by decide)
  cases a with
  | none =>
    cases b with
    | none => exact ⟨rfl, by simpa using h⟩
    | some text => exact absurd h.symm (hmixed text _ _)
  | some text =>
    cases b with
    | none => exact absurd h (hmixed text _ _)
    | some text' =>
      simp only [descriptionChars_some, List.append_assoc, List.append_cancel_left_eq] at h
      obtain ⟨htext, htail⟩ := Quoted.encode_append_inj h
      simp only [List.append_cancel_left_eq] at htail
      exact ⟨congrArg some (String.toList_inj.mp htext), htail⟩

/-- Two parameters in front of line ends are the same if their texts are. -/
theorem Parameter.chars_append_inj (hp : p.isWellFormed = true) (hq : q.isWellFormed = true)
    (hr : Ends goesOnInLine r) (hs : Ends goesOnInLine s)
    (h : p.chars 0 ++ r = q.chars 0 ++ s) : p = q ∧ r = s := by
  obtain ⟨name, type, default, description⟩ := p
  obtain ⟨name', type', default', description'⟩ := q
  simp only [Parameter.chars, List.append_assoc] at h
  obtain ⟨rfl, hdeclared⟩ := description_append_inj h
  obtain ⟨rfl, rfl, hdefault⟩ := typed_append_inj (ends_defaultChars_append default hr)
    (ends_defaultChars_append default' hs) hdeclared
  obtain ⟨rfl, ht⟩ := defaultChars_append_inj hp hq hr hs hdefault
  exact ⟨rfl, ht⟩

def opensParameter (c : Char) : Bool :=
  c == '@' || c == 'p'

theorem Parameter.not_ends_chars_append (p : Parameter) (u : List Char) :
    ¬ Ends opensParameter (p.chars 0 ++ u) := by
  obtain ⟨name, type, default, description⟩ := p
  cases description with
  | none =>
    have hparam : "param ".toList = 'p' :: "aram ".toList := rfl
    simp only [Parameter.chars, descriptionChars_none, hparam]
    exact fun h => absurd (ends_cons.mp h) (by decide)
  | some text =>
    have hat : "@description(".toList = '@' :: "description(".toList := rfl
    simp only [Parameter.chars, descriptionChars_some, hat]
    exact fun h => absurd (ends_cons.mp h) (by decide)

end Parameters

section Resources

variable {g h : Header} {a b : Bool} {ps qs : List Property} {r s : List Char} {level : Level}

theorem existing_append_inj
    (he : (if a then " existing".toList else []) ++ (" = ".toList ++ r) =
      (if b then " existing".toList else []) ++ (" = ".toList ++ s)) : a = b ∧ r = s := by
  have hmixed : ∀ u v : List Char, " existing".toList ++ u ≠ " = ".toList ++ v := by
    intro u v huv
    have hexisting : " existing".toList = ' ' :: 'e' :: "xisting".toList := rfl
    have hequals : " = ".toList = [' ', '=', ' '] := rfl
    rw [hexisting, hequals] at huv
    exact absurd (List.cons.inj (List.cons.inj huv).2).1 (by decide)
  cases a <;> cases b
  case false.false => exact ⟨rfl, by simpa using he⟩
  case false.true => exact absurd he.symm (hmixed _ _)
  case true.false => exact absurd he (hmixed _ _)
  case true.true => exact ⟨rfl, by simpa using he⟩

theorem Header.chars_append_inj (he : g.chars ++ r = h.chars ++ s) : g = h ∧ r = s := by
  have hspace : ∀ v : List Char, Ends isWordChar ([' '] ++ v) :=
    fun _ => ends_cons.mpr (by decide)
  obtain ⟨name, type, existing⟩ := g
  obtain ⟨name', type', existing'⟩ := h
  unfold Header.chars at he
  simp only [List.append_assoc, List.append_cancel_left_eq] at he
  obtain ⟨rfl, htype⟩ := Name.append_inj (hspace _) (hspace _) he
  rw [List.append_cancel_left_eq] at htype
  obtain ⟨hts, hexisting⟩ := Quoted.encode_append_inj htype
  obtain rfl := String.toList_inj.mp hts
  obtain ⟨rfl, ht⟩ := existing_append_inj hexisting
  exact ⟨rfl, ht⟩

theorem empty_append_ne_block {p : Property} (hp : p.isWellFormed = true) :
    '{' :: lineStart level ++ ['}'] ++ r ≠
      blockText .object ((p :: ps).map Property.chars) level ++ s := by
  -- the items of a body are indented otherwise than the closing brace
  intro he
  have hopening : "\x7b".toList = ['{'] := rfl
  simp only [blockText, Delimiters.object, hopening, List.map_cons, List.flatMap_cons,
    List.append_assoc, List.cons_append, List.cons.injEq] at he
  exact lineStart_append_ne (Property.ends_chars_append hp _ _) (ends_cons.mpr (by decide)) level
    he.2.symm

theorem bodyChars_append_inj (hp : propertiesWellFormed ps = true)
    (hq : propertiesWellFormed qs = true)
    (he : bodyChars ps level ++ r = bodyChars qs level ++ s) :
    eraseProperties ps = eraseProperties qs ∧ r = s := by
  rw [propertiesWellFormed_iff] at hp hq
  cases ps with
  | nil =>
    cases qs with
    | nil => exact ⟨rfl, List.append_cancel_left he⟩
    | cons q qs => exact absurd he (empty_append_ne_block (hq q List.mem_cons_self))
  | cons p ps =>
    cases qs with
    | nil => exact absurd he.symm (empty_append_ne_block (hp p List.mem_cons_self))
    | cons q qs =>
      obtain ⟨hm, ht⟩ := blockText_append_inj rfl (by decide)
        (fun p hps => Property.ends_chars_append (hp p hps))
        (fun q hqs => Property.ends_chars_append (hq q hqs))
        (fun p hps q hqs => tree_delimited.1 p q (hp p hps) (hq q hqs)) he
      exact ⟨by rw [eraseProperties_eq, eraseProperties_eq, hm], ht⟩

theorem Declared.chars_append_inj {x y : Declared} (hx : propertiesWellFormed x.body = true)
    (hy : propertiesWellFormed y.body = true) (he : x.chars level ++ r = y.chars level ++ s) :
    x.erase = y.erase ∧ r = s := by
  rw [Declared.chars, Declared.chars, List.append_assoc, List.append_assoc] at he
  obtain ⟨hheader, hbody⟩ := Header.chars_append_inj he
  obtain ⟨herase, ht⟩ := bodyChars_append_inj hx hy hbody
  exact ⟨by rw [erase, erase, hheader, herase], ht⟩

theorem Declared.chars_eq_cons (x : Declared) (level : Level) :
    ∃ text, x.chars level = 'r' :: text := by
  have hresource : "resource ".toList = 'r' :: "esource ".toList := rfl
  unfold Declared.chars Header.chars
  rw [hresource]
  exact ⟨_, rfl⟩

theorem bodyChars_eraseProperties (ps : List Property) (level : Level) :
    bodyChars (eraseProperties ps) level = bodyChars ps level := by
  have hchars : (eraseProperties ps).map Property.chars = ps.map Property.chars := by
    rw [eraseProperties_eq, List.map_map]
    exact List.map_congr_left fun p _ => chars_erase.1 p
  rw [bodyChars, bodyChars, hchars, eraseProperties_eq, List.isEmpty_map]

theorem Declared.chars_erase (x : Declared) (level : Level) :
    x.erase.chars level = x.chars level := by
  rw [Declared.chars, Declared.chars, erase, bodyChars_eraseProperties]

end Resources

section Outputs

variable {o o' : Output} {os os' : List Output} {r s : List Char}

theorem Output.chars_append_inj (ho : o.value.isWellFormed = true)
    (ho' : o'.value.isWellFormed = true) (hr : Ends goesOn r) (hs : Ends goesOn s)
    (h : o.chars ++ r = o'.chars ++ s) : o = o' ∧ r = s := by
  obtain ⟨name, type, value⟩ := o
  obtain ⟨name', type', value'⟩ := o'
  have hequals : ∀ v : List Char, Ends isWordChar (" = ".toList ++ v) :=
    fun _ => ends_cons.mpr (by decide)
  unfold Output.chars at h
  simp only [List.append_assoc, List.append_cancel_left_eq] at h
  obtain ⟨rfl, rfl, hvalue⟩ := typed_append_inj (hequals _) (hequals _) h
  rw [List.append_cancel_left_eq] at hvalue
  obtain ⟨rfl, ht⟩ := Expr.chars_append_inj ho ho' hr hs hvalue
  exact ⟨rfl, ht⟩

theorem outputsChars_inj (ho : ∀ o ∈ os, o.value.isWellFormed = true)
    (ho' : ∀ o ∈ os', o.value.isWellFormed = true) (h : outputsChars os = outputsChars os') :
    os = os' := by
  have hsep : ∀ u : List Char, Ends goesOn (['\n'] ++ u) := fun _ => ends_cons.mpr (by decide)
  have hnonempty : ∀ (o : Output) (u : List Char), ['\n'] ++ (o.chars ++ u) ≠ ['\n'] := by
    intro o u he
    have ho := List.cons.inj he
    unfold Output.chars at ho
    simp at ho
  unfold outputsChars at h
  cases os with
  | nil =>
    cases os' with
    | nil => rfl
    | cons o os => exact absurd (List.cons.inj h).2.symm (by simp)
  | cons o os =>
    cases os' with
    | nil => exact absurd (List.cons.inj h).2 (by simp)
    | cons o' os' =>
      have htail := (List.cons.inj h).2
      obtain ⟨hm, -⟩ := separated_append_inj (e := id) hsep
        (fun o hos o' hos' r s hr hs => Output.chars_append_inj (ho o hos) (ho' o' hos') hr hs)
        (hsep []) (hsep []) (fun o _ => hnonempty o) (fun o _ => hnonempty o) htail
      simpa using hm

theorem ends_drop_outputsChars {p : Char → Bool} (hp : p 'o' = false) (os : List Output) :
    Ends p ((outputsChars os).drop 2) := by
  cases os with
  | nil => exact ends_nil
  | cons o os =>
    have houtput : "output ".toList = 'o' :: "utput ".toList := rfl
    unfold outputsChars
    rw [List.flatMap_cons]
    unfold Output.chars
    rw [houtput]
    exact ends_cons.mpr hp

end Outputs

section Blocks

variable {α : Type} {p : Char → Bool} {f : α → List Char} {xs : List α} {t v : List Char}

theorem ends_drop_blocks (hf : ∀ x ∈ xs, ∀ u, Ends p (f x ++ u)) (ht : Ends p (t.drop 2)) :
    Ends p ((xs.flatMap (fun x => ['\n', '\n'] ++ f x) ++ t).drop 2) := by
  cases xs with
  | nil => exact ht
  | cons x xs =>
    rw [List.flatMap_cons, List.append_assoc, List.append_assoc]
    exact hf x List.mem_cons_self _

theorem block_ne (hv : ¬ Ends p v) (ht : Ends p (t.drop 2)) : ['\n', '\n'] ++ v ≠ t := by
  rintro rfl
  exact hv ht

end Blocks

theorem TargetScope.toList_text_inj {a b : TargetScope} (h : a.text.toList = b.text.toList) :
    a = b := by
  revert h
  cases a <;> cases b <;> decide

theorem Resource.wellFormed_of_declared {r : Resource} {x : Declared}
    (hr : r.isWellFormed = true) (h : r.declared = .ok x) :
    propertiesWellFormed x.body = true := by
  unfold Resource.isWellFormed at hr
  unfold Resource.declared at h
  cases hb : r.body with
  | error e => rw [hb] at h; exact nomatch h
  | ok body =>
    rw [hb] at hr h
    obtain rfl := Except.ok.inj h
    exact hr

theorem wellFormed_of_mapM_declared {rs : List Resource} {shown : List Declared}
    (hr : ∀ r ∈ rs, r.isWellFormed = true) (h : rs.mapM Resource.declared = .ok shown) :
    ∀ x ∈ shown, propertiesWellFormed x.body = true := by
  rw [mapM_eq_ok_iff] at h
  induction h with
  | nil => exact fun x hx => absurd hx List.not_mem_nil
  | cons hs hrs ih =>
    rw [List.forall_mem_cons] at hr ⊢
    exact ⟨Resource.wellFormed_of_declared hr.1 hs, ih hr.2⟩

theorem flatMap_chars_erase (shown : List Declared) :
    ((shown.map Declared.erase).flatMap fun x => ['\n', '\n'] ++ x.chars 0) =
      shown.flatMap fun x => ['\n', '\n'] ++ x.chars 0 := by
  simp only [List.flatMap_map, Declared.chars_erase]

theorem Document.chars_congr {d e : Document} {shown shown' : List Declared}
    (hscope : d.targetScope = e.targetScope) (hparameters : d.parameters = e.parameters)
    (herase : shown.map Declared.erase = shown'.map Declared.erase)
    (houtputs : d.outputs = e.outputs) : d.chars shown = e.chars shown' := by
  unfold Document.chars
  rw [hscope, hparameters, houtputs, ← flatMap_chars_erase shown, herase, flatMap_chars_erase]

theorem Document.chars_inj {d e : Document} {shown shown' : List Declared}
    (hp : ∀ p ∈ d.parameters, p.isWellFormed = true)
    (hp' : ∀ p ∈ e.parameters, p.isWellFormed = true)
    (hb : ∀ x ∈ shown, propertiesWellFormed x.body = true)
    (hb' : ∀ x ∈ shown', propertiesWellFormed x.body = true)
    (ho : ∀ o ∈ d.outputs, o.value.isWellFormed = true)
    (ho' : ∀ o ∈ e.outputs, o.value.isWellFormed = true)
    (h : d.chars shown = e.chars shown') :
    d.targetScope = e.targetScope ∧ d.parameters = e.parameters ∧
      shown.map Declared.erase = shown'.map Declared.erase ∧ d.outputs = e.outputs := by
  have hsep : ∀ u : List Char, Ends goesOnInLine (['\n', '\n'] ++ u) :=
    fun _ => ends_cons.mpr (by decide)
  have hline : ∀ os, Ends goesOnInLine (outputsChars os) := by
    intro os
    cases os <;> exact ends_cons.mpr (by decide)
  have hresource : ∀ (x : Declared) u, ¬ Ends (· == 'r') (x.chars 0 ++ u) := by
    intro x u he
    obtain ⟨text, hx⟩ := x.chars_eq_cons 0
    rw [hx] at he
    exact absurd (ends_cons.mp he) (by decide)
  have hbehind : ∀ (xs : List Declared) os, Ends opensParameter
      ((xs.flatMap (fun x => ['\n', '\n'] ++ x.chars 0) ++ outputsChars os).drop 2) := by
    intro xs os
    refine ends_drop_blocks (fun x _ u => ?_) (ends_drop_outputsChars (by decide) os)
    obtain ⟨text, hx⟩ := x.chars_eq_cons 0
    rw [hx]
    exact ends_cons.mpr (by decide)
  unfold Document.chars at h
  simp only [List.append_assoc, List.append_cancel_left_eq] at h
  obtain ⟨hscope, hblocks⟩ := Quoted.encode_append_inj h
  obtain ⟨hparameters, hrest⟩ := separated_append_inj (e := id) hsep
    (fun p hps q hqs r s hr hs => Parameter.chars_append_inj (hp p hps) (hp' q hqs) hr hs)
    (ends_separated_append hsep (hline _)) (ends_separated_append hsep (hline _))
    (fun p _ u => block_ne (p.not_ends_chars_append u) (hbehind _ _))
    (fun p _ u => block_ne (p.not_ends_chars_append u) (hbehind _ _)) hblocks
  obtain ⟨hshown, houtputs⟩ := separated_append_inj hsep
    (fun x hx y hy r s _ _ => Declared.chars_append_inj (hb x hx) (hb' y hy))
    (hline _) (hline _)
    (fun x _ u => block_ne (hresource x u) (ends_drop_outputsChars (by decide) _))
    (fun x _ u => block_ne (hresource x u) (ends_drop_outputsChars (by decide) _)) hrest
  exact ⟨TargetScope.toList_text_inj hscope, by simpa using hparameters, hshown,
    outputsChars_inj ho ho' houtputs⟩


/-- Two documents are rendered alike exactly if they declare the same, up to suppressed names. -/
theorem Document.render_eq_iff {d e : Document} {text text' : String} {ws ws' : List Warning}
    (hd : d.render = .ok (text, ws)) (he : e.render = .ok (text', ws'))
    (hwd : d.isWellFormed = true) (hwe : e.isWellFormed = true) :
    text = text' ↔ d.targetScope = e.targetScope ∧ d.parameters = e.parameters ∧
      (∃ shown shown', d.declarations.mapM Resource.declared = .ok shown ∧
        e.declarations.mapM Resource.declared = .ok shown' ∧
        shown.map Declared.erase = shown'.map Declared.erase) ∧ d.outputs = e.outputs := by
  obtain ⟨shown, hshown, htext⟩ := chars_of_render hd
  obtain ⟨shown', hshown', htext'⟩ := chars_of_render he
  simp only [isWellFormed, Bool.and_eq_true, List.all_eq_true] at hwd hwe
  rw [← String.toList_inj, htext, htext']
  constructor
  · intro h
    obtain ⟨hscope, hparameters, herase, houtputs⟩ := chars_inj hwd.1.1 hwe.1.1
      (wellFormed_of_mapM_declared hwd.1.2 hshown) (wellFormed_of_mapM_declared hwe.1.2 hshown')
      hwd.2 hwe.2 h
    exact ⟨hscope, hparameters, ⟨shown, shown', hshown, hshown', herase⟩, houtputs⟩
  · rintro ⟨hscope, hparameters, ⟨xs, ys, hxs, hys, herase⟩, houtputs⟩
    obtain rfl := Except.ok.inj (hshown.symm.trans hxs)
    obtain rfl := Except.ok.inj (hshown'.symm.trans hys)
    exact chars_congr hscope hparameters herase houtputs

/-- A description that reads like another parameter is not taken for one. -/
theorem Document.render_description_ne :
    let rules : Resource := .declaration ⟨⟨⟨"rules", by decide⟩, "A/b@1", false⟩,
      [.array "list" [.object "first" false [.scalar "port" (.symbol "size")]]]⟩
    let size : Output := ⟨⟨"size", by decide⟩, .int, .symbol "size"⟩
    let d : Document := {
      parameters := [⟨⟨"size", by decide⟩, .int, some (.int 3), some "Rows')\nparam all bool"⟩]
      resources := [rules]
      outputs := [size] }
    let e : Document := {
      parameters :=
        [⟨⟨"size", by decide⟩, .int, some (.int 3), some "Rows"⟩,
          ⟨⟨"all", by decide⟩, .bool, none, none⟩]
      resources := [rules]
      outputs := [size] }
    ∃ text text', d.render = .ok (text, []) ∧ e.render = .ok (text', []) ∧
      d.isWellFormed = true ∧ e.isWellFormed = true ∧ text ≠ text' := by
  intro rules size d e
  have hd : d.isWellFormed = true := by decide
  have he : e.isWellFormed = true := by decide
  refine ⟨_, _, rfl, rfl, hd, he, fun h => ?_⟩
  have hparameters := ((render_eq_iff (rfl : d.render = .ok (_, [])) (rfl : e.render = .ok (_, []))
    hd he).mp h).2.1
  exact absurd (congrArg List.length hparameters) (by decide)

end BicepTemplates
