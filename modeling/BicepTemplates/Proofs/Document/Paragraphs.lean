import BicepTemplates.Proofs.Document.Writing
import BicepTemplates.Proofs.Expression.Names
import BicepTemplates.Proofs.Layout.Outline

/-! # Paragraphs

Blank lines stand between the blocks of a template. A block has none of its own if it is the text of
an outline with solid lines, since then every line break has a line with text behind it. Splitting
a template at its blank lines gives such blocks back.
-/

namespace BicepTemplates

open Layout

/-- Puts a character at the front of the first paragraph. -/
def continued (c : Char) : List (List Char) → List (List Char)
  | [] => [[c]]
  | paragraph :: rest => (c :: paragraph) :: rest

/-- The pieces between the blank lines, from the first line break on. -/
def paragraphs : List Char → List (List Char)
  | [] => [[]]
  | '\n' :: '\n' :: rest => [] :: paragraphs rest
  | c :: rest => continued c (paragraphs rest)

/-- Text in which every line break is followed by something else. -/
inductive Unbroken : List Char → Prop where
  | nil : Unbroken []
  | char {c : Char} {s : List Char} (hc : c ≠ '\n') (hs : Unbroken s) : Unbroken (c :: s)
  | line {c : Char} {s : List Char} (hc : c ≠ '\n') (hs : Unbroken s) : Unbroken ('\n' :: c :: s)

section Splitting

variable {c : Char} {s : List Char}

theorem paragraphs_cons (hc : c ≠ '\n') : paragraphs (c :: s) = continued c (paragraphs s) := by
  rw [paragraphs]
  exact fun _ h _ => hc h

theorem paragraphs_line (hc : c ≠ '\n') :
    paragraphs ('\n' :: c :: s) = continued '\n' (paragraphs (c :: s)) := by
  rw [paragraphs]
  exact fun _ _ h => hc (List.cons.inj h).1

namespace Unbroken

theorem paragraphs_append (hs : Unbroken s) (rest : List Char) :
    paragraphs (s ++ '\n' :: '\n' :: rest) = s :: paragraphs rest := by
  induction hs with
  | nil => rfl
  | char hc hs ih => rw [List.cons_append, paragraphs_cons hc, ih, continued]
  | line hc hs ih =>
    rw [List.cons_append, List.cons_append, paragraphs_line hc, paragraphs_cons hc, ih, continued,
      continued]

theorem paragraphs_eq (hs : Unbroken s) : paragraphs s = [s] := by
  induction hs with
  | nil => rfl
  | char hc hs ih => rw [paragraphs_cons hc, ih, continued]
  | line hc hs ih => rw [paragraphs_line hc, paragraphs_cons hc, ih, continued, continued]

end Unbroken

/-- Blank lines between unbroken texts are the only ones. -/
theorem paragraphs_intercalate {text : List Char} {texts : List (List Char)}
    (h : ∀ t ∈ text :: texts, Unbroken t) :
    paragraphs (['\n', '\n'].intercalate (text :: texts)) = text :: texts := by
  rw [intercalate_cons]
  induction texts generalizing text with
  | nil => rw [List.flatMap_nil, List.append_nil, (h text List.mem_cons_self).paragraphs_eq]
  | cons t texts ih =>
    obtain ⟨htext, htexts⟩ := List.forall_mem_cons.mp h
    rw [List.flatMap_cons, List.append_assoc, List.cons_append, List.cons_append, List.nil_append,
      htext.paragraphs_append, ih htexts]

end Splitting

section Unbroken

variable {s t : List Char} {level : Level}

theorem unbroken_of_newline_not_mem (h : '\n' ∉ s) : Unbroken s := by
  induction s with
  | nil => exact .nil
  | cons c s ih =>
    rw [List.mem_cons, not_or] at h
    exact .char (Ne.symm h.1) (ih h.2)

theorem Unbroken.append (hs : Unbroken s) (ht : Unbroken t) : Unbroken (s ++ t) := by
  induction hs with
  | nil => exact ht
  | char hc _ ih => exact .char hc ih
  | line hc _ ih => exact .line hc ih

theorem unbroken_flatMap {α : Type} {f : α → List Char} {xs : List α}
    (h : ∀ x ∈ xs, Unbroken (f x)) : Unbroken (xs.flatMap f) := by
  induction xs with
  | nil => exact .nil
  | cons x xs ih =>
    obtain ⟨hx, hxs⟩ := List.forall_mem_cons.mp h
    exact hx.append (ih hxs)

theorem unbroken_lineStart_append (hs : Line.Solid s) : Unbroken (lineStart level ++ s) := by
  have hmem : '\n' ∉ List.replicate (2 * level).toNat ' ' ++ s := by
    simp [hs.newline_not_mem]
  obtain ⟨c, u, hu⟩ := List.exists_cons_of_ne_nil
    (List.append_ne_nil_of_right_ne_nil (List.replicate (2 * level).toNat ' ') hs.ne_nil)
  rw [lineStart, List.cons_append, hu]
  rw [hu, List.mem_cons, not_or] at hmem
  exact .line (Ne.symm hmem.1) (unbroken_of_newline_not_mem hmem.2)

theorem Outline.Solid.unbroken_text {o : Outline} (h : o.Solid) (level : Level) :
    Unbroken (o.text level) := by
  obtain ⟨hfirst, hrest⟩ := solid_iff.mp h
  rw [text_eq]
  exact (unbroken_of_newline_not_mem hfirst.newline_not_mem).append
    (unbroken_flatMap fun l hl => unbroken_lineStart_append (hrest l hl))

end Unbroken

/-- The names in the properties of a declaration, and in those any other resource constructs. -/
def Resource.names : Resource → List String
  | .declaration d => propertiesNames d.properties
  | r =>
    match r.body with
    | .ok body => propertiesNames body
    | .error _ => []

def Parameter.names (p : Parameter) : List String :=
  p.default.elim [] Expr.names

/-- The names in all expressions, shown or not. -/
def Document.names (d : Document) : List String :=
  d.parameters.flatMap Parameter.names ++ d.declarations.flatMap Resource.names ++
    d.outputs.flatMap (·.value.names)

section Blocks

theorem Name.newline_not_mem (n : Name) : '\n' ∉ n.text.toList := by
  have h := n.valid
  simp only [isName, Bool.and_eq_true, List.all_eq_true] at h
  exact newline_not_mem_of_word h.2

theorem ValueType.newline_not_mem (t : ValueType) : '\n' ∉ t.text.toList := by
  cases t <;> decide

theorem Header.newline_not_mem_chars (h : Header) : '\n' ∉ h.chars := by
  have hexisting : '\n' ∉ if h.existing then " existing".toList else [] := by
    split <;> decide
  unfold Header.chars
  simp only [List.mem_append, not_or]
  exact ⟨⟨⟨⟨⟨by decide, h.name.newline_not_mem⟩, by decide⟩, newline_not_mem_encode _⟩, hexisting⟩,
    by decide⟩

theorem Output.newline_not_mem_chars {o : Output} (h : Identifiers o.value.names) :
    '\n' ∉ o.chars := by
  unfold Output.chars
  simp only [List.mem_append, not_or]
  exact ⟨⟨⟨⟨⟨by decide, o.name.newline_not_mem⟩, by decide⟩, o.type.newline_not_mem⟩, by decide⟩,
    o.value.newline_not_mem_chars h⟩

end Blocks

def outputBlock : List Output → List (List Char)
  | [] => []
  | o :: os => [o.chars ++ os.flatMap fun o => '\n' :: o.chars]

/-- The blocks of a document whose resources show the given declarations. -/
def Document.blocks (d : Document) (shown : List Declared) : List (List Char) :=
  ("targetScope = ".toList ++ Quoted.encode d.targetScope.text.toList) ::
    (d.parameters.map (·.chars 0) ++ shown.map (·.chars 0) ++ outputBlock d.outputs)

section Documents

variable {d : Document} {r : Resource} {s : Declared} {shown : List Declared}

theorem outputsChars_eq (os : List Output) :
    outputsChars os = ((outputBlock os).flatMap fun t => ['\n', '\n'] ++ t) ++ ['\n'] := by
  cases os with
  | nil => rfl
  | cons o os => simp [outputsChars, outputBlock]

theorem Resource.identifiers_of_declared (hr : Identifiers r.names) (h : r.declared = .ok s) :
    Identifiers (propertiesNames s.body) := by
  obtain ⟨body, hbody, hs⟩ : ∃ body, r.body = .ok body ∧ s.body = body := by
    unfold Resource.declared at h
    cases hb : r.body with
    | error e => rw [hb] at h; exact nomatch h
    | ok body =>
      rw [hb] at h
      exact ⟨body, rfl, by rw [← Except.ok.inj h]⟩
  rw [hs]
  cases r with
  | declaration d =>
    -- an existing resource shows some of its properties, any other all of them
    have hshown : ∀ p ∈ body, p ∈ d.properties := by
      have hconstructed : body = if d.header.existing then
          d.properties.filter fun p => identifyingKeys.contains p.name else d.properties :=
        (Except.ok.inj hbody).symm
      rw [hconstructed]
      split
      · exact fun p hp => List.mem_of_mem_filter hp
      · exact fun p hp => hp
    rw [Resource.names, propertiesNames_eq, identifiers_flatMap] at hr
    rw [propertiesNames_eq, identifiers_flatMap]
    exact fun p hp => hr p (hshown p hp)
  | _ =>
    simpa only [Resource.names, hbody] using hr

theorem identifiers_of_mapM_declared {rs : List Resource} (hr : ∀ r ∈ rs, Identifiers r.names)
    (h : rs.mapM Resource.declared = .ok shown) :
    ∀ s ∈ shown, Identifiers (propertiesNames s.body) := by
  rw [mapM_eq_ok_iff] at h
  induction h with
  | nil => exact fun s hs => absurd hs List.not_mem_nil
  | cons hs _ ih =>
    rw [List.forall_mem_cons] at hr ⊢
    exact ⟨Resource.identifiers_of_declared hr.1 hs, ih hr.2⟩

namespace Document

theorem chars_eq_blocks (d : Document) (shown : List Declared) :
    d.chars shown = ['\n', '\n'].intercalate (d.blocks shown) ++ ['\n'] := by
  have hassoc : ∀ scope parameters resources outputs ending : List Char,
      scope ++ parameters ++ resources ++ (outputs ++ ending) =
        scope ++ (parameters ++ resources ++ outputs) ++ ending := by simp
  unfold chars blocks
  rw [outputsChars_eq, hassoc, intercalate_cons, List.flatMap_append, List.flatMap_append,
    List.flatMap_map, List.flatMap_map]

theorem length_blocks (h : d.declarations.mapM Resource.declared = .ok shown) :
    (d.blocks shown).length = 1 + d.parameters.length + d.declarations.length +
      if d.outputs.isEmpty then 0 else 1 := by
  have hshown : d.declarations.length = shown.length := (mapM_eq_ok_iff.mp h).length_eq
  have houtputs : (outputBlock d.outputs).length = if d.outputs.isEmpty then 0 else 1 := by
    cases d.outputs <;> rfl
  rw [blocks, List.length_cons, List.length_append, List.length_append, List.length_map,
    List.length_map, houtputs, hshown]
  omega

end Document

end Documents

end BicepTemplates
