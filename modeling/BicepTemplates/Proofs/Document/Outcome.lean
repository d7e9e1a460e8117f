import BicepTemplates.Proofs.Document.Recovery
import BicepTemplates.Proofs.Resource.Hierarchy

/-! # What rendering a document comes to

A repeated symbol is reported before a repeated output, and this before a resource that cannot be
declared. Of each kind it is the first one in the order of the document. A document without any of
these renders, and its text declares every symbol and every output once.
-/

namespace BicepTemplates

/-- The first entry that equals an earlier one. -/
def FirstRepeat (name : String) (names : List String) : Prop :=
  ∃ before after, names = before ++ name :: after ∧ before.Nodup ∧ name ∈ before

inductive Resource.Fails (r : Resource) : Error → Prop where
  | validating {cause : ValidationError} (h : r.validate = .error cause) :
      Fails r (.validation r.name.text .validating cause)
  | constructing {warnings : List Warning} {e : Error} (hv : r.validate = .ok warnings)
      (h : r.body = .error e) : Fails r e

/-- What a resource shows, and the warnings its checks leave. -/
def Resource.Shows (r : Resource) (shown : Declared × List Warning) : Prop :=
  r.validate = .ok shown.2 ∧ r.declared = .ok shown.1

namespace Document

def outputNames (d : Document) : List String :=
  d.outputs.map (·.name.text)

/-- The four ways in which rendering ends. -/
inductive Outcome (d : Document) : Except Error (String × List Warning) → Prop where
  | repeatedSymbol {name : String} (h : FirstRepeat name d.symbols) :
      Outcome d (.error (.duplicateSymbol name))
  | repeatedOutput {name : String} (hsymbols : d.symbols.Nodup)
      (h : FirstRepeat name d.outputNames) : Outcome d (.error (.duplicateSymbol name))
  | failure {before after : List Resource} {r : Resource} {e : Error} (hsymbols : d.symbols.Nodup)
      (houtputs : d.outputNames.Nodup) (hd : d.declarations = before ++ r :: after)
      (hbefore : ∀ s ∈ before, ∃ shown, s.Shows shown) (h : r.Fails e) : Outcome d (.error e)
  | template {shown : List (Declared × List Warning)} (hsymbols : d.symbols.Nodup)
      (houtputs : d.outputNames.Nodup) (h : List.Forall₂ Resource.Shows d.declarations shown) :
      Outcome d (.ok (String.ofList (d.chars (shown.map (·.1))), shown.flatMap (·.2)))

end Document

section Repeats

variable {seen names : List String} {name x : String}

/-- Each name is new, given those seen before. -/
def Fresh (seen names : List String) : Prop :=
  names.Nodup ∧ ∀ x ∈ names, x ∉ seen

@[simp] theorem fresh_nil : Fresh seen [] := by simp [Fresh]

theorem fresh_cons : Fresh seen (x :: names) ↔ x ∉ seen ∧ Fresh (x :: seen) names := by
  unfold Fresh
  rw [List.nodup_cons, List.forall_mem_cons]
  constructor
  · rintro ⟨⟨hx, hnodup⟩, hxs, hseen⟩
    refine ⟨hxs, hnodup, fun y hy hm => ?_⟩
    rcases List.mem_cons.mp hm with rfl | hm
    · exact hx hy
    · exact hseen y hy hm
  · rintro ⟨hxs, hnodup, hseen⟩
    have hx : x ∉ names := fun hm => hseen x hm List.mem_cons_self
    exact ⟨⟨hx, hnodup⟩, hxs, fun y hy hm => hseen y hy (List.mem_cons_of_mem x hm)⟩

theorem fresh_nil_left : Fresh [] names ↔ names.Nodup := by simp [Fresh]

theorem firstRepeated_eq_none_iff :
    Document.firstRepeated seen names = none ↔ Fresh seen names := by
  induction names generalizing seen with
  | nil => simp [Document.firstRepeated]
  | cons x names ih =>
    rw [Document.firstRepeated, fresh_cons]
    by_cases hx : x ∈ seen
    · simp [hx]
    · rw [if_neg (by simpa using hx), ih]
      exact (and_iff_right hx).symm

theorem firstRepeated_eq_some_iff :
    Document.firstRepeated seen names = some name ↔ ∃ before after,
      names = before ++ name :: after ∧ Fresh seen before ∧ (name ∈ seen ∨ name ∈ before) := by
  induction names generalizing seen with
  | nil => simp [Document.firstRepeated]
  | cons x names ih =>
    rw [Document.firstRepeated]
    by_cases hx : x ∈ seen
    · rw [if_pos (by simpa using hx)]
      constructor
      · intro h
        obtain rfl := Option.some.inj h
        exact ⟨[], names, rfl, fresh_nil, .inl hx⟩
      · rintro ⟨before, after, hsplit, hfresh, -⟩
        cases before with
        | nil => rw [(List.cons.inj hsplit).1]
        | cons y before =>
          obtain ⟨rfl, -⟩ := List.cons.inj hsplit
          exact absurd hx (fresh_cons.mp hfresh).1
    · rw [if_neg (by simpa using hx), ih]
      -- what was seen and what stands before shift by one name
      have hshift : ∀ before, (name ∈ x :: seen ∨ name ∈ before) ↔
          (name ∈ seen ∨ name ∈ x :: before) := by
        intro before
        rw [List.mem_cons, List.mem_cons]
        tauto
      constructor
      · rintro ⟨before, after, rfl, hfresh, hname⟩
        exact ⟨x :: before, after, rfl, fresh_cons.mpr ⟨hx, hfresh⟩, (hshift before).mp hname⟩
      · rintro ⟨before, after, hsplit, hfresh, hname⟩
        cases before with
        | nil =>
          obtain ⟨rfl, -⟩ := List.cons.inj hsplit
          exact absurd hname (by simpa using hx)
        | cons y before =>
          obtain ⟨rfl, rfl⟩ := List.cons.inj hsplit
          exact ⟨before, after, rfl, (fresh_cons.mp hfresh).2, (hshift before).mpr hname⟩

theorem firstRepeated_nil_eq_some_iff :
    Document.firstRepeated [] names = some name ↔ FirstRepeat name names := by
  simp only [firstRepeated_eq_some_iff, fresh_nil_left, List.not_mem_nil, false_or, FirstRepeat]

end Repeats

section Resources

variable {r : Resource} {e : Error}

theorem Resource.render_eq_error_iff : r.render = .error e ↔ r.Fails e := by
  rw [Resource.render, bind_eq_error_iff, mapError_eq_error_iff]
  simp only [mapError_eq_ok_iff, bind_eq_error_iff]
  constructor
  · rintro (⟨cause, hv, rfl⟩ | ⟨warnings, hv, hbody | ⟨body, -, hdone⟩⟩)
    · exact .validating hv
    · exact .constructing hv hbody
    · exact nomatch hdone
  · rintro (hv | ⟨hv, hbody⟩)
    · exact .inl ⟨_, hv, rfl⟩
    · exact .inr ⟨_, hv, .inl hbody⟩

theorem Resource.render_eq_ok_iff {text : String} {warnings : List Warning} :
    r.render = .ok (text, warnings) ↔
      ∃ s, r.Shows (s, warnings) ∧ text = String.ofList (s.chars 0) := by
  have htext : ∀ body : List Property, Layout.renderAt (Resource.layout r.header body) 0 =
      String.ofList (Declared.chars ⟨r.header, body⟩ 0) := by
    intro body
    rw [← String.toList_inj, (Declared.writes_layout ⟨r.header, body⟩).toList_renderAt,
      String.toList_ofList]
  unfold Resource.Shows Resource.declared
  rw [Resource.render, bind_eq_ok_iff]
  simp only [mapError_eq_ok_iff, bind_eq_ok_iff]
  constructor
  · rintro ⟨_, hv, body, hbody, hdone⟩
    obtain ⟨rfl, rfl⟩ := Prod.mk.inj (Except.ok.inj hdone)
    exact ⟨⟨r.header, body⟩, ⟨hv, by rw [hbody]; rfl⟩, htext body⟩
  · rintro ⟨s, ⟨hv, hdeclared⟩, rfl⟩
    cases hbody : r.body with
    | error e => rw [hbody] at hdeclared; exact nomatch hdeclared
    | ok body =>
      rw [hbody] at hdeclared
      obtain rfl := Except.ok.inj hdeclared
      exact ⟨warnings, hv, body, rfl, by rw [htext]; rfl⟩

theorem Resource.exists_render_eq_ok_iff : (∃ t, r.render = .ok t) ↔ ∃ shown, r.Shows shown := by
  simp only [Prod.exists, render_eq_ok_iff]
  tauto

end Resources

section Rendering

variable {d : Document} {e : Error} {rs : List Resource} {shown : List (Declared × List Warning)}

theorem mapM_render_of_shows (h : List.Forall₂ Resource.Shows rs shown) :
    rs.mapM Resource.render = .ok (shown.map fun s => (String.ofList (s.1.chars 0), s.2)) := by
  rw [mapM_eq_ok_iff, List.forall₂_map_right_iff]
  exact h.imp fun r s hs => Resource.render_eq_ok_iff.mpr ⟨s.1, hs, rfl⟩

theorem exists_shows_of_mapM_render {texts : List (String × List Warning)}
    (h : rs.mapM Resource.render = .ok texts) : ∃ shown, List.Forall₂ Resource.Shows rs shown := by
  rw [mapM_eq_ok_iff] at h
  induction h with
  | nil => exact ⟨[], .nil⟩
  | cons hr hrs ih =>
    obtain ⟨s, hs⟩ := Resource.exists_render_eq_ok_iff.mp ⟨_, hr⟩
    obtain ⟨shown, hshown⟩ := ih
    exact ⟨s :: shown, .cons hs hshown⟩

theorem mapM_declared_of_shows (h : List.Forall₂ Resource.Shows rs shown) :
    rs.mapM Resource.declared = .ok (shown.map (·.1)) := by
  rw [mapM_eq_ok_iff, List.forall₂_map_right_iff]
  exact h.imp fun r s hs => hs.2

namespace Document

theorem checkSymbols_eq_ok_iff {u : Unit} :
    d.checkSymbols = .ok u ↔ d.symbols.Nodup ∧ d.outputNames.Nodup := by
  simp only [← fresh_nil_left, ← firstRepeated_eq_none_iff]
  unfold checkSymbols outputNames
  cases firstRepeated [] d.symbols with
  | some name => simp
  | none => cases firstRepeated [] (d.outputs.map (·.name.text)) <;> simp

theorem checkSymbols_eq_error_iff :
    d.checkSymbols = .error e ↔ ∃ name, e = .duplicateSymbol name ∧ (FirstRepeat name d.symbols ∨
      d.symbols.Nodup ∧ FirstRepeat name d.outputNames) := by
  simp only [← firstRepeated_nil_eq_some_iff, ← fresh_nil_left, ← firstRepeated_eq_none_iff]
  unfold checkSymbols outputNames
  cases firstRepeated [] d.symbols with
  | some name => simp [eq_comm]
  | none => cases firstRepeated [] (d.outputs.map (·.name.text)) <;> simp [eq_comm]

theorem render_eq_error_iff : d.render = .error e ↔ d.Outcome (.error e) := by
  rw [render, bind_eq_error_iff]
  simp only [checkSymbols_eq_ok_iff, checkSymbols_eq_error_iff, bind_eq_error_iff,
    mapM_eq_error_iff, Resource.exists_render_eq_ok_iff, Resource.render_eq_error_iff]
  constructor
  · rintro (⟨name, rfl, hsymbols | ⟨hsymbols, houtputs⟩⟩ | ⟨_, ⟨hsymbols, houtputs⟩, hrest⟩)
    · exact .repeatedSymbol hsymbols
    · exact .repeatedOutput hsymbols houtputs
    · rcases hrest with ⟨before, r, after, hd, hbefore, hr⟩ | ⟨_, _, hdone⟩
      · exact .failure hsymbols houtputs hd hbefore hr
      · exact nomatch hdone
  · rintro (hsymbols | ⟨hsymbols, houtputs⟩ | ⟨hsymbols, houtputs, hd, hbefore, hr⟩)
    · exact .inl ⟨_, rfl, .inl hsymbols⟩
    · exact .inl ⟨_, rfl, .inr ⟨hsymbols, houtputs⟩⟩
    · exact .inr ⟨(), ⟨hsymbols, houtputs⟩, .inl ⟨_, _, _, hd, hbefore, hr⟩⟩

theorem render_of_shows (hsymbols : d.symbols.Nodup) (houtputs : d.outputNames.Nodup)
    (h : List.Forall₂ Resource.Shows d.declarations shown) :
    d.render = .ok (String.ofList (d.chars (shown.map (·.1))), shown.flatMap (·.2)) := by
  have hcheck : d.checkSymbols = .ok () := checkSymbols_eq_ok_iff.mpr ⟨hsymbols, houtputs⟩
  have hwarnings : (shown.map fun s => (String.ofList (s.1.chars 0), s.2)).flatMap (·.2) =
      shown.flatMap (·.2) := List.flatMap_map ..
  obtain ⟨text, hrender⟩ : ∃ text, d.render = .ok (text, shown.flatMap (·.2)) := by
    rw [render, hcheck, mapM_render_of_shows h, ← hwarnings]
    exact ⟨_, rfl⟩
  obtain ⟨shown', hdeclared, htext⟩ := chars_of_render hrender
  obtain rfl := Except.ok.inj (hdeclared.symm.trans (mapM_declared_of_shows h))
  rw [hrender, ← htext, String.ofList_toList]

theorem render_eq_ok_iff {template : String × List Warning} :
    d.render = .ok template ↔ d.Outcome (.ok template) := by
  constructor
  · intro h
    obtain ⟨_, hcheck, htexts⟩ := bind_eq_ok_iff.mp h
    obtain ⟨texts, hm, -⟩ := bind_eq_ok_iff.mp htexts
    obtain ⟨hsymbols, houtputs⟩ := checkSymbols_eq_ok_iff.mp hcheck
    obtain ⟨shown, hshown⟩ := exists_shows_of_mapM_render hm
    obtain rfl := Except.ok.inj (h.symm.trans (render_of_shows hsymbols houtputs hshown))
    exact .template hsymbols houtputs hshown
  · intro h
    cases h with
    | template hsymbols houtputs hshown => exact render_of_shows hsymbols houtputs hshown

/-- The text and the warnings are what the declarations show. -/
theorem exists_shows_of_render {template : String × List Warning} (h : d.render = .ok template) :
    ∃ shown, d.symbols.Nodup ∧ d.outputNames.Nodup ∧
      List.Forall₂ Resource.Shows d.declarations shown ∧
      template = (String.ofList (d.chars (shown.map (·.1))), shown.flatMap (·.2)) := by
  cases render_eq_ok_iff.mp h with
  | template hsymbols houtputs hshown => exact ⟨_, hsymbols, houtputs, hshown, rfl⟩

end Document

theorem headers_of_shows (h : List.Forall₂ Resource.Shows rs shown) :
    (shown.map (·.1)).map (·.header) = rs.map Resource.header := by
  induction h with
  | nil => rfl
  | @cons r s _ _ hr hrs ih =>
    have hheader : s.1.header = r.header := by
      obtain ⟨-, hdeclared⟩ := hr
      unfold Resource.declared at hdeclared
      cases hbody : r.body with
      | error e => rw [hbody] at hdeclared; exact nomatch hdeclared
      | ok body =>
        rw [hbody] at hdeclared
        rw [← Except.ok.inj hdeclared]
    rw [List.map_cons, List.map_cons, List.map_cons, hheader, ih]

end Rendering

/-- Rendering ends as its outcome says, for every document. A template that is produced is the text
of all that the document declares, in which no parameter or resource and no output comes twice. -/
theorem Document.render_outcome (d : Document) :
    Resource.hierarchy.DepthFirst d.resources d.declarations ∧
      (∀ result, d.render = result ↔ d.Outcome result) ∧
      ∀ text warnings, d.render = .ok (text, warnings) → ∃ shown : List Declared,
        text = String.ofList (d.chars shown) ∧
          shown.map (·.header) = d.declarations.map Resource.header ∧
          (d.parameters.map (·.name.text) ++ shown.map (·.header.name.text)).Nodup ∧
          (d.outputs.map (·.name.text)).Nodup := by
  have houtcome : ∀ result, d.render = result ↔ d.Outcome result := by
    rintro (e | template)
    · exact render_eq_error_iff
    · exact render_eq_ok_iff
  refine ⟨Resource.hierarchy.depthFirst_preorder d.resources, houtcome, ?_⟩
  intro text warnings h
  cases render_eq_ok_iff.mp h with
  | @template shown hsymbols houtputs hshown =>
    have hheaders := headers_of_shows hshown
    have hnames := calc
      (shown.map (·.1)).map (·.header.name.text)
        = ((shown.map (·.1)).map (·.header)).map (·.name.text) := by
          simp only [List.map_map, Function.comp_def]
      _ = (d.declarations.map Resource.header).map (·.name.text) := by rw [hheaders]
      _ = d.declarations.map (·.name.text) := by rw [List.map_map]; rfl
    refine ⟨shown.map (·.1), ?_, hheaders, ?_, houtputs⟩
    · rfl
    · rw [hnames]
      exact hsymbols

end BicepTemplates
