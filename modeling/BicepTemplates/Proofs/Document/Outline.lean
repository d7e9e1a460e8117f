import BicepTemplates.Proofs.Document.Outcome
import BicepTemplates.Proofs.Document.Paragraphs
import BicepTemplates.Proofs.Property.Outline

/-! # The lines of a template

Blank lines stand between the blocks of a template and nowhere else, and no line ends in a space:
every block is the text of an outline with solid lines. This needs the names in the expressions to
be identifiers, and holds for any descriptions, types, keys and strings, because what they contain
is escaped.
-/

namespace BicepTemplates

open Layout Outline

def Parameter.declarationChars (p : Parameter) : List Char :=
  "param ".toList ++ p.name.text.toList ++ [' '] ++ p.type.text.toList ++ defaultChars p.default

def describedLine (content : List Char) : Option String → Outline
  | some s => ⟨"@description(".toList ++ Quoted.encode s.toList ++ [')'], [⟨0, content⟩]⟩
  | none => line content

theorem describedLine_none (content : List Char) : describedLine content none = line content := rfl

theorem describedLine_some (content : List Char) (s : String) : describedLine content (some s) =
    ⟨"@description(".toList ++ Quoted.encode s.toList ++ [')'], [⟨0, content⟩]⟩ := rfl

def Parameter.outline (p : Parameter) : Outline :=
  describedLine p.declarationChars p.description

def Declared.outline (s : Declared) : Outline :=
  if s.body.isEmpty then ⟨s.header.chars ++ ['{'], [⟨0, ['}']⟩]⟩
  else container .object s.header.chars (s.body.map Property.outline)

def outputOutline : List Output → List Outline
  | [] => []
  | o :: os => [⟨o.chars, os.map fun o => ⟨0, o.chars⟩⟩]

def Document.outlines (d : Document) (shown : List Declared) : List Outline :=
  line ("targetScope = ".toList ++ Quoted.encode d.targetScope.text.toList) ::
    (d.parameters.map Parameter.outline ++ shown.map Declared.outline ++ outputOutline d.outputs)

section Texts

theorem text_describedLine (content : List Char) (description : Option String) (level : Level) :
    (describedLine content description).text level =
      descriptionChars level description ++ content := by
  cases description with
  | none => rw [describedLine_none, text_line, descriptionChars_none, List.nil_append]
  | some s =>
    rw [describedLine_some, text_eq, List.flatMap_singleton, descriptionChars_some,
      Line.levelFrom_zero]
    simp only [List.append_assoc]

theorem Parameter.text_outline (p : Parameter) (level : Level) :
    p.outline.text level = p.chars level := by
  unfold outline chars declarationChars
  rw [text_describedLine]
  simp only [List.append_assoc]

theorem Declared.text_outline (s : Declared) (level : Level) :
    s.outline.text level = s.chars level := by
  unfold outline Declared.chars bodyChars
  split
  · simp [text_eq]
  · rw [text_container, List.map_map]
    congr 2
    exact List.map_congr_left fun p _ => BicepTemplates.text_outline.1 p

theorem texts_outputOutline (os : List Output) :
    (outputOutline os).map (·.text 0) = outputBlock os := by
  cases os with
  | nil => rfl
  | cons o os =>
    rw [outputOutline, outputBlock, List.map_singleton, text_eq, List.flatMap_map]
    rfl

theorem Document.texts_outlines (d : Document) (shown : List Declared) :
    (d.outlines shown).map (·.text 0) = d.blocks shown := by
  rw [outlines, blocks, List.map_cons, List.map_append, List.map_append, List.map_map,
    List.map_map, texts_outputOutline, text_line]
  congr 3
  · exact List.map_congr_left fun p _ => p.text_outline 0
  · exact List.map_congr_left fun s _ => s.text_outline 0

end Texts

section Solid

theorem solid_word {w : List Char} (hne : w ≠ []) (h : ∀ c ∈ w, isWordChar c = true) :
    Line.Solid w :=
  ⟨trimmed_of_word hne h, newline_not_mem_of_word h⟩

theorem ValueType.solid_text (t : ValueType) : Line.Solid t.text.toList := by
  cases t <;> exact solid_word (by decide) (List.all_eq_true.mp (by decide))

theorem Parameter.solid_declarationChars {p : Parameter} (h : Identifiers p.names) :
    Line.Solid p.declarationChars := by
  have hkeyword : Line.Solid "param".toList :=
    solid_word (by decide) (List.all_eq_true.mp (by decide))
  have hname : '\n' ∉ ' ' :: (p.name.text.toList ++ [' ']) := by
    simp [p.name.newline_not_mem]
  have htyped : Line.Solid
      ("param ".toList ++ p.name.text.toList ++ [' '] ++ p.type.text.toList) :=
    hkeyword.around p.type.solid_text hname
  unfold declarationChars
  cases hdefault : p.default with
  | none =>
    rw [defaultChars_none, List.append_nil]
    exact htyped
  | some value =>
    rw [names, hdefault] at h
    rw [defaultChars_some, ← List.append_assoc]
    exact htyped.around (Expr.solid_chars h) (by decide)

theorem solid_describedLine {content : List Char} (h : Line.Solid content)
    (description : Option String) : (describedLine content description).Solid := by
  cases description with
  | none => exact solid_line h
  | some s =>
    have hat : Line.Solid ['@'] := .singleton (by decide)
    have hparen : Line.Solid [')'] := .singleton (by decide)
    have hbetween : '\n' ∉ "description(".toList ++ Quoted.encode s.toList := by
      rw [List.mem_append, not_or]
      exact ⟨by decide, newline_not_mem_encode _⟩
    exact solid_iff.mpr ⟨hat.around hparen hbetween, List.forall_mem_singleton.mpr h⟩

theorem Parameter.solid_outline {p : Parameter} (h : Identifiers p.names) : p.outline.Solid :=
  solid_describedLine (solid_declarationChars h) p.description

theorem Header.solid_chars_append (h : Header) {s : List Char} (hs : Line.Solid s) :
    Line.Solid (h.chars ++ s) := by
  refine ⟨?_, ?_⟩
  · exact (trimmed_singleton (c := 'r') (by decide)).around hs.toTrimmed _
  · rw [List.mem_append, not_or]
    exact ⟨h.newline_not_mem_chars, hs.newline_not_mem⟩

theorem Declared.solid_outline {s : Declared} (h : Identifiers (propertiesNames s.body)) :
    s.outline.Solid := by
  have hopening := s.header.solid_chars_append (.singleton (c := '{') (by decide))
  have hclosing : Line.Solid ['}'] := .singleton (by decide)
  rw [propertiesNames_eq, identifiers_flatMap] at h
  unfold outline
  split
  · exact solid_iff.mpr ⟨hopening, List.forall_mem_singleton.mpr hclosing⟩
  · refine solid_container hopening hclosing ?_
    rw [List.forall_mem_map]
    exact fun p hp => BicepTemplates.solid_outline.1 p (h p hp)

theorem Output.solid_chars {o : Output} (h : Identifiers o.value.names) : Line.Solid o.chars := by
  have htrimmed := (trimmed_singleton (c := 'o') (by decide)).around (o.value.trimmed_chars h)
    ("utput ".toList ++ o.name.text.toList ++ [' '] ++ o.type.text.toList ++ " = ".toList)
  exact ⟨htrimmed, o.newline_not_mem_chars h⟩

theorem solid_outputOutline {os : List Output} (h : ∀ o ∈ os, Identifiers o.value.names) :
    ∀ o ∈ outputOutline os, o.Solid := by
  cases os with
  | nil => exact List.forall_mem_nil _
  | cons o os =>
    obtain ⟨ho, hos⟩ := List.forall_mem_cons.mp h
    rw [outputOutline, List.forall_mem_singleton, solid_iff, List.forall_mem_map]
    exact ⟨Output.solid_chars ho, fun o ho => Output.solid_chars (hos o ho)⟩

theorem Document.solid_outlines {d : Document} {shown : List Declared} (hd : Identifiers d.names)
    (h : d.declarations.mapM Resource.declared = .ok shown) :
    ∀ o ∈ d.outlines shown, o.Solid := by
  simp only [names, identifiers_append, identifiers_flatMap] at hd
  obtain ⟨⟨hparameters, hresources⟩, houtputs⟩ := hd
  have hscope : Line.Solid
      ("targetScope = ".toList ++ Quoted.encode d.targetScope.text.toList) := by
    refine ⟨(trimmed_singleton (c := 't') (by decide)).around (trimmed_encode _) _, ?_⟩
    rw [List.mem_append, not_or]
    exact ⟨by decide, newline_not_mem_encode _⟩
  have hbodies := identifiers_of_mapM_declared hresources h
  rw [outlines, List.forall_mem_cons, List.forall_mem_append, List.forall_mem_append,
    List.forall_mem_map, List.forall_mem_map]
  exact ⟨solid_line hscope, ⟨fun p hp => Parameter.solid_outline (hparameters p hp),
    fun s hs => Declared.solid_outline (hbodies s hs)⟩, solid_outputOutline houtputs⟩

end Solid

/-- Without outputs there is no block for them, otherwise there is one with a line for each. -/
inductive OutputParagraph : List Output → List (List Char) → Prop where
  | none : OutputParagraph [] []
  | lines {os : List Output} {paragraph : List Char} (hne : os ≠ [])
      (h : paragraph.splitOn '\n' = os.map fun o => (renderAt o.layout 0).toList) :
      OutputParagraph os [paragraph]

/-- The template is the paragraphs of its body and one line break, and the paragraphs are the
target scope, each parameter, each resource in front of what it owns, and the outputs. -/
structure Document.LaidOut (d : Document) (text : String) (body : List Char)
    (declared : List String) (outputs : List (List Char)) : Prop where
  text_eq : text.toList = body ++ ['\n']
  one_break : body.getLast? ≠ some '\n'
  paragraphs_eq : paragraphs body =
    (("targetScope = '" ++ d.targetScope.text ++ "'") ::
      d.parameters.map (fun p => renderAt p.layout 0) ++ declared).map String.toList ++ outputs
  depthFirst : Resource.hierarchy.DepthFirst d.resources d.declarations
  declared : List.Forall₂ (fun r t => ∃ left, r.render = .ok (t, left)) d.declarations declared
  outputs : OutputParagraph d.outputs outputs
  lines : ∀ paragraph ∈ paragraphs body, ∀ l ∈ paragraph.splitOn '\n',
    l ≠ [] ∧ l.getLast? ≠ some ' '

section Documents

variable {d : Document} {shown : List Declared}

theorem Document.toList_scope (d : Document) :
    ("targetScope = '" ++ d.targetScope.text ++ "'").toList =
      "targetScope = ".toList ++ Quoted.encode d.targetScope.text.toList := by
  cases d.targetScope <;> rfl

theorem outputParagraph_outputBlock {os : List Output}
    (h : ∀ o ∈ os, Identifiers o.value.names) : OutputParagraph os (outputBlock os) := by
  cases os with
  | nil => exact .none
  | cons o os =>
    have hchars : ∀ o : Output, (renderAt o.layout 0).toList = o.chars :=
      fun o => o.writes_layout.toList_renderAt 0
    have hsolid := List.forall_mem_singleton.mp (solid_outputOutline h)
    rw [← texts_outputOutline]
    refine .lines (List.cons_ne_nil _ _) ?_
    rw [splitOn_text hsolid, List.map_map]
    simp [hchars, Line.indented]

theorem Document.unbroken_blocks (hd : Identifiers d.names)
    (h : d.declarations.mapM Resource.declared = .ok shown) :
    ∀ t ∈ d.blocks shown, Unbroken t := by
  rw [← texts_outlines, List.forall_mem_map]
  exact fun o ho => (solid_outlines hd h o ho).unbroken_text 0

/-- Splitting a rendered text at its blank lines gives the blocks of the document. -/
theorem Document.paragraphs_of_render {text : String} {warnings : List Warning} (hd : Identifiers d.names)
    (h : d.render = .ok (text, warnings)) :
    ∃ shown body, d.declarations.mapM Resource.declared = .ok shown ∧
      text.toList = body ++ ['\n'] ∧ paragraphs body = d.blocks shown := by
  obtain ⟨shown, hshown, htext⟩ := chars_of_render h
  exact ⟨shown, _, hshown, htext.trans (d.chars_eq_blocks shown),
    paragraphs_intercalate (unbroken_blocks hd hshown)⟩

theorem Document.trimmed_blocks (hd : Identifiers d.names)
    (h : d.declarations.mapM Resource.declared = .ok shown) :
    Trimmed (['\n', '\n'].intercalate (d.blocks shown)) := by
  have hsolid := solid_outlines hd h
  rw [outlines, List.forall_mem_cons] at hsolid
  rw [← texts_outlines, outlines, List.map_cons, intercalate_cons, List.flatMap_map]
  exact (trimmed_text hsolid.1 0).append_flatMap (fun o ho => trimmed_text (hsolid.2 o ho) 0) _

/-- A document with identifiers for names is laid out in paragraphs. -/
theorem Document.laidOut_of_render {text : String} {warnings : List Warning}
    (hd : Identifiers d.names) (h : d.render = .ok (text, warnings)) :
    ∃ body declared outputs, d.LaidOut text body declared outputs := by
  obtain ⟨shown, -, -, hshown, htemplate⟩ := exists_shows_of_render h
  obtain ⟨htext, -⟩ := Prod.mk.inj htemplate
  have hdeclared := mapM_declared_of_shows hshown
  have hparagraphs : paragraphs (['\n', '\n'].intercalate (d.blocks (shown.map (·.1)))) =
      d.blocks (shown.map (·.1)) := paragraphs_intercalate (unbroken_blocks hd hdeclared)
  have hvalues := (identifiers_append.mp hd).2
  rw [identifiers_flatMap] at hvalues
  refine ⟨['\n', '\n'].intercalate (d.blocks (shown.map (·.1))),
    shown.map fun s => String.ofList (s.1.chars 0), outputBlock d.outputs, ?_⟩
  constructor
  case text_eq => rw [htext, String.toList_ofList, chars_eq_blocks]
  case one_break =>
    intro hend
    exact ((trimmed_blocks hd hdeclared).inked_getLast? [] '\n' hend).2 rfl
  case paragraphs_eq =>
    have hshownTexts : (shown.map fun s => String.ofList (s.1.chars 0)).map String.toList =
        (shown.map (·.1)).map (·.chars 0) := by
      rw [List.map_map, List.map_map]
      exact List.map_congr_left fun s _ => String.toList_ofList
    rw [hparagraphs, blocks, List.cons_append, List.map_cons, List.map_append, hshownTexts,
      d.toList_scope, ← d.toList_parameterBlocks]
    rfl
  case depthFirst => exact (render_outcome d).1
  case declared =>
    rw [List.forall₂_map_right_iff]
    exact hshown.imp fun r s hs => ⟨s.2, Resource.render_eq_ok_iff.mpr ⟨s.1, hs, rfl⟩⟩
  case outputs => exact outputParagraph_outputBlock hvalues
  case lines =>
    rw [hparagraphs, ← texts_outlines, List.forall_mem_map]
    exact fun o ho => inked_of_mem_splitOn (solid_outlines hd hdeclared o ho)

/-- The blank line in the description separates nothing, and the container of the database has a
paragraph of its own. -/
theorem Document.laidOut_of_render_stock :
    let stock : Name := ⟨"stock", by decide⟩
    let items : Cosmos.Container := ⟨⟨⟨"items", by decide⟩, Cosmos.Container.type, false⟩,
      ⟨"shop", by decide⟩, stock, true, some ⟨["/id"]⟩, {}, none, none, [], none, []⟩
    let d : Document := {
      parameters := [⟨⟨"size", by decide⟩, .int, some (.int 3), some "Rows\n\nper page"⟩]
      resources := [.database ⟨⟨stock, Cosmos.Database.type, false⟩, ⟨"shop", by decide⟩, true,
        [items], {}⟩]
      outputs := [⟨⟨"size", by decide⟩, .int, .symbol "size"⟩,
        ⟨⟨"id", by decide⟩, .string, .member (.symbol "stock") "id"⟩] }
    ∃ text body declared outputs, d.render = .ok (text, []) ∧ Identifiers d.names ∧
      d.LaidOut text body declared outputs ∧ (paragraphs body).length = 5 := by
  intro stock items d
  have hnames : Identifiers d.names := by
    show ∀ name ∈ ["shop", "location", "stock", "location", "size", "stock", "id"],
      isIdentifier name = true
    decide
  obtain ⟨body, declared, outputs, hlaidOut⟩ :=
    laidOut_of_render hnames (rfl : d.render = .ok (_, []))
  refine ⟨_, body, declared, outputs, rfl, hnames, hlaidOut, ?_⟩
  have hdeclared := hlaidOut.declared.length_eq
  have houtputs : outputs.length = 1 := by
    cases hlaidOut.outputs with
    | lines => rfl
  rw [hlaidOut.paragraphs_eq, List.length_append, List.length_map, List.length_append, ← hdeclared,
    houtputs]
  rfl

end Documents

end BicepTemplates
