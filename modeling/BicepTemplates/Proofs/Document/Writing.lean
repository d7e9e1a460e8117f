import BicepTemplates.Document
import BicepTemplates.Proofs.Property.Writing
import BicepTemplates.Proofs.Success

/-! # What documents write

A rendered document is the target scope, followed by the parameters and the resources, each after
a blank line, and by the outputs, which share one block. The resources show their header and the
body they construct.
-/

namespace BicepTemplates

open Layout

def descriptionChars (level : Level) : Option String → List Char
  | some s => "@description(".toList ++ Quoted.encode s.toList ++ [')'] ++ lineStart level
  | none => []

def defaultChars : Option Expr → List Char
  | some value => " = ".toList ++ value.chars
  | none => []

@[simp] theorem descriptionChars_none (level : Level) : descriptionChars level none = [] := rfl

theorem descriptionChars_some (level : Level) (s : String) : descriptionChars level (some s) =
    "@description(".toList ++ Quoted.encode s.toList ++ [')'] ++ lineStart level := rfl

@[simp] theorem defaultChars_none : defaultChars none = [] := rfl

theorem defaultChars_some (value : Expr) :
    defaultChars (some value) = " = ".toList ++ value.chars := rfl

def Parameter.chars (p : Parameter) (level : Level) : List Char :=
  descriptionChars level p.description ++
    ("param ".toList ++ p.name.text.toList ++ [' '] ++ p.type.text.toList) ++
    defaultChars p.default

def Output.chars (o : Output) : List Char :=
  "output ".toList ++ o.name.text.toList ++ [' '] ++ o.type.text.toList ++ " = ".toList ++
    o.value.chars

/-- The braces of an empty body stand on two lines. -/
def bodyChars (body : List Property) (level : Level) : List Char :=
  if body.isEmpty then '{' :: lineStart level ++ ['}']
  else blockText .object (body.map Property.chars) level

/-- The header and the body that a declaration shows. -/
structure Declared where
  header : Header
  body : List Property

def Header.chars (h : Header) : List Char :=
  "resource ".toList ++ h.name.text.toList ++ [' '] ++ Quoted.encode h.type.toList ++
    (if h.existing then " existing".toList else []) ++ " = ".toList

def Declared.chars (r : Declared) (level : Level) : List Char :=
  r.header.chars ++ bodyChars r.body level

def Resource.declared (r : Resource) : Except Error Declared :=
  r.body.map fun body => ⟨r.header, body⟩

theorem Parameter.writes_layout (p : Parameter) : Writes p.layout p.chars := by
  obtain ⟨name, type, default, description⟩ := p
  have hdeclared : Writes
      (fun d => (((d.write "param ").write name.text).write " ").write type.text)
      fun _ => "param ".toList ++ name.text.toList ++ [' '] ++ type.text.toList :=
    ((writes_write "param ").trans (writes_write _)).trans (writes_write " ") |>.trans
      (writes_write _)
  have hdefault : ∀ value : Expr, Writes (fun d => (d.write " = ").write value.render)
      fun _ => defaultChars (some value) :=
    fun value => (writes_write " = ").trans (writes_render value)
  have hdescription : ∀ s : String,
      Writes (fun d => (((d.write "@description(").write (Quoted.literal s)).write ")").newline)
        fun n => descriptionChars n (some s) := by
    intro s
    refine ((((writes_write "@description(").trans (writes_write (Quoted.literal s))).trans
      (writes_write ")")).trans writes_newline).congr fun n => ?_
    simp [descriptionChars_some]
  cases description with
  | none =>
    cases default with
    | none => exact hdeclared.congr fun n => by simp [chars]
    | some value =>
      exact (hdeclared.trans (hdefault value)).congr fun n => by simp [chars]
  | some s =>
    cases default with
    | none =>
      exact ((hdescription s).trans hdeclared).congr fun n => by simp [chars]
    | some value =>
      exact (((hdescription s).trans hdeclared).trans (hdefault value)).congr fun n => by
        simp [chars]

theorem Output.writes_layout (o : Output) : Writes o.layout fun _ => o.chars :=
  ((((writes_write "output ").trans (writes_write _)).trans (writes_write " ")).trans
    (writes_write _)).trans (writes_write " = ") |>.trans (writes_render o.value)

theorem writes_body (body : List Property) :
    Writes (fun d => if body.isEmpty then ((d.write "\x7b").newline).write "\x7d"
      else block .object (propertyLayouts body) d) (bodyChars body) := by
  cases body with
  | nil =>
    exact ((writes_write "\x7b").trans writes_newline).trans (writes_write "\x7d")
  | cons p ps =>
    have h : Writes (block .object (propertyLayouts (p :: ps)))
        (blockText .object (propertyTexts (p :: ps))) :=
      writes_object fun p _ => BicepTemplates.writes_layout.1 p
    rwa [propertyTexts_eq] at h

theorem writes_if (b : Bool) (s : String) :
    Writes (fun d => if b then d.write s else d) fun _ => if b then s.toList else [] := by
  intro d
  cases b with
  | true => exact writes_write s d
  | false => exact ⟨(List.append_nil _).symm, rfl⟩

theorem Header.writes_layout (h : Header) :
    Writes (fun d =>
      let d := (((d.write "resource ").write h.name.text).write " ").write (Quoted.literal h.type)
      (if h.existing then d.write " existing" else d).write " = ") fun _ => h.chars := by
  have hname : Writes (fun d => (((d.write "resource ").write h.name.text).write " ").write
      (Quoted.literal h.type)) fun _ =>
        "resource ".toList ++ h.name.text.toList ++ [' '] ++ Quoted.encode h.type.toList := by
    refine ((((writes_write "resource ").trans (writes_write _)).trans (writes_write " ")).trans
      (writes_write (Quoted.literal h.type))).congr fun _ => ?_
    simp
  have hheader := (hname.trans (writes_if h.existing " existing")).trans (writes_write " = ")
  exact hheader

theorem Declared.writes_layout (r : Declared) :
    Writes (Resource.layout r.header r.body) r.chars := by
  have h := r.header.writes_layout.trans (writes_body r.body)
  exact h

def outputsChars (outputs : List Output) : List Char :=
  if outputs.isEmpty then ['\n']
  else '\n' :: (outputs.flatMap fun o => ['\n'] ++ o.chars) ++ ['\n']

/-- The text of a document whose resources show the given declarations. -/
def Document.chars (d : Document) (shown : List Declared) : List Char :=
  "targetScope = ".toList ++ Quoted.encode d.targetScope.text.toList ++
    (d.parameters.flatMap fun p => ['\n', '\n'] ++ p.chars 0) ++
    (shown.flatMap fun r => ['\n', '\n'] ++ r.chars 0) ++ outputsChars d.outputs

theorem Resource.declared_of_render {r : Resource} {text : String} {warnings : List Warning}
    (h : r.render = .ok (text, warnings)) :
    ∃ s, r.declared = .ok s ∧ text.toList = s.chars 0 := by
  obtain ⟨_, -, hbody⟩ := bind_eq_ok_iff.mp h
  obtain ⟨body, hb, htext⟩ := bind_eq_ok_iff.mp hbody
  obtain ⟨rfl, -⟩ := Prod.mk.inj (Except.ok.inj htext)
  exact ⟨⟨r.header, body⟩, by rw [declared, hb]; rfl,
    (Declared.writes_layout ⟨r.header, body⟩).toList_renderAt 0⟩

theorem declared_of_mapM_render {rs : List Resource} {texts : List (String × List Warning)}
    (h : rs.mapM Resource.render = .ok texts) :
    ∃ shown, rs.mapM Resource.declared = .ok shown ∧
      (texts.map (·.1)).map String.toList = shown.map (·.chars 0) := by
  simp only [mapM_eq_ok_iff] at h ⊢
  induction h with
  | nil => exact ⟨[], .nil, rfl⟩
  | cons hr hrs ih =>
    obtain ⟨s, hs, ht⟩ := Resource.declared_of_render hr
    obtain ⟨shown, hshown, hmap⟩ := ih
    refine ⟨s :: shown, .cons hs hshown, ?_⟩
    rw [List.map_cons, List.map_cons, List.map_cons, ht, hmap]

theorem Document.toList_outputBlocks (d : Document) :
    ((d.outputBlocks.map String.toList).flatMap fun y => ['\n', '\n'] ++ y) ++ ['\n'] =
      outputsChars d.outputs := by
  unfold outputBlocks outputsChars
  cases d.outputs with
  | nil => rfl
  | cons o os =>
    have hos : ∀ o : Output, (Layout.renderAt o.layout 0).toList = o.chars :=
      fun o => o.writes_layout.toList_renderAt 0
    have hsep : "\n".toList = ['\n'] := rfl
    rw [List.isEmpty_cons, if_neg Bool.false_ne_true, if_neg Bool.false_ne_true, List.map_singleton,
      List.flatMap_singleton, String.toList_intercalate, hsep, List.map_map, List.map_cons,
      intercalate_cons, List.flatMap_map, List.flatMap_cons]
    simp only [Function.comp_apply, hos, List.cons_append, List.nil_append]

theorem Document.toList_parameterBlocks (d : Document) :
    d.parameterBlocks.map String.toList = d.parameters.map (·.chars 0) := by
  rw [parameterBlocks, List.map_map]
  exact List.map_congr_left fun p _ => p.writes_layout.toList_renderAt 0

/-- A document that renders shows every resource, and its text is made of what they show. -/
theorem Document.chars_of_render {d : Document} {text : String} {warnings : List Warning}
    (h : d.render = .ok (text, warnings)) :
    ∃ shown, d.declarations.mapM Resource.declared = .ok shown ∧ text.toList = d.chars shown := by
  obtain ⟨_, -, htexts⟩ := bind_eq_ok_iff.mp h
  obtain ⟨texts, hm, htext⟩ := bind_eq_ok_iff.mp htexts
  obtain ⟨rfl, -⟩ := Prod.mk.inj (Except.ok.inj htext)
  obtain ⟨shown, hs, hmap⟩ := declared_of_mapM_render hm
  have hbreak : "\n".toList = ['\n'] := rfl
  have hblank : "\n\n".toList = ['\n', '\n'] := rfl
  have hscope : d.scopeBlock.toList =
      "targetScope = ".toList ++ Quoted.encode d.targetScope.text.toList := by
    unfold scopeBlock
    rw [String.toList_append, Quoted.toList_literal]
  refine ⟨shown, hs, ?_⟩
  rw [String.toList_append, String.toList_intercalate, hbreak, hblank, List.cons_append,
    List.cons_append, List.map_cons, intercalate_cons, List.map_append, List.map_append,
    List.flatMap_append, List.flatMap_append, hmap, toList_parameterBlocks,
    List.flatMap_map, List.flatMap_map, hscope]
  unfold chars
  rw [← toList_outputBlocks]
  simp only [List.append_assoc]

end BicepTemplates
