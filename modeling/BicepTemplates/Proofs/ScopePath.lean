import BicepTemplates.Proofs.Document.Recovery
import BicepTemplates.Proofs.Expression.Templates

/-! # Resolved scope paths

A path is resolved at every depth: the root alone is a member access, and a path with links an
interpolated string with one expression for the root and one for each link, in their order. The
text of a resolved path gives the path back, since every name ends at the dot behind it and every
segment where the next expression opens.
-/

namespace BicepTemplates

namespace ScopePath

/-- The literal text between the expression of a link and the one before it. -/
def linkLiteral (l : ScopeLink) : String :=
  "/" ++ l.segment ++ "/"

def linkExpression (l : ScopeLink) : Expr :=
  .member l.name.reference "name"

def rootExpression (p : ScopePath) : Expr :=
  .member p.root.reference "id"

def segments : List ScopeLink → Segments
  | [] => .last ""
  | l :: links => .next (linkLiteral l) (linkExpression l) (segments links)

/-- The expression a path resolves to. -/
def resolved (p : ScopePath) : Expr :=
  match p.links with
  | [] => p.rootExpression
  | links => .interpolation "" p.rootExpression (segments links)

section Resolving

variable {p : ScopePath} {links : List ScopeLink}

theorem literals_segments (links : List ScopeLink) :
    (segments links).literals = links.map linkLiteral ++ [""] := by
  induction links with
  | nil => rfl
  | cons l links ih => rw [segments, Segments.literals, ih, List.map_cons, List.cons_append]

theorem expressions_segments (links : List ScopeLink) :
    (segments links).expressions = links.map linkExpression := by
  induction links with
  | nil => rfl
  | cons l links ih => rw [segments, Segments.expressions, ih, List.map_cons]

theorem foldl_addLink (links : List ScopeLink) (b : Interpolation) :
    links.foldl addLink b =
      ⟨b.literals ++ links.map linkLiteral, b.expressions ++ links.map linkExpression⟩ := by
  induction links generalizing b with
  | nil => simp
  | cons l links ih =>
    have hstep : addLink b l = ⟨b.literals ++ [linkLiteral l], b.expressions ++ [linkExpression l]⟩ :=
      rfl
    rw [List.foldl_cons, ih, hstep, List.append_assoc, List.append_assoc]
    rfl

theorem zip?_links (links : List ScopeLink) :
    Segments.zip? (links.map linkLiteral) (links.map linkExpression) = some (segments links) := by
  induction links with
  | nil => rfl
  | cons l links ih =>
    rw [List.map_cons, List.map_cons, Segments.zip?, ih]
    rfl

theorem resolve_eq (p : ScopePath) : p.resolve = .ok p.resolved := by
  obtain ⟨root, links⟩ := p
  cases links with
  | nil => rfl
  | cons l links =>
    have hbuilt := zip?_links (l :: links)
    simp only [resolve, foldl_addLink, Interpolation.build, Interpolation.literal,
      Interpolation.expression, List.nil_append, List.cons_append, hbuilt]
    rfl

theorem resolved_of_links_eq_nil (h : p.links = []) :
    p.resolved = .member p.root.reference "id" := by
  rw [resolved, h]
  rfl

theorem interpolation?_resolved (h : p.links ≠ []) : p.resolved.interpolation? =
    some ⟨"" :: p.links.map linkLiteral ++ [""], p.rootExpression :: p.links.map linkExpression⟩ := by
  obtain ⟨root, links⟩ := p
  obtain ⟨l, links, rfl⟩ := List.exists_cons_of_ne_nil h
  rw [resolved, Expr.interpolation?, literals_segments, expressions_segments, List.cons_append]

end Resolving

section Reading

variable {p q : ScopePath} {m n : Name} {l k : ScopeLink} {links more : List ScopeLink}
  {key : String} {r s : List Char}

theorem member_chars_append_inj
    (h : (Expr.member m.reference key).chars ++ r = (Expr.member n.reference key).chars ++ s) :
    m = n ∧ r = s := by
  -- a name ends at the dot behind it
  have hdot : ∀ u : List Char, Ends isWordChar ('.' :: u) := fun _ => ends_cons.mpr (by decide)
  simp only [Expr.chars, Name.reference, List.append_assoc, List.cons_append] at h
  obtain ⟨rfl, hrest⟩ := Name.append_inj (hdot _) (hdot _) h
  exact ⟨rfl, List.append_cancel_left (List.cons.inj hrest).2⟩

theorem linkLiteral_inj (h : linkLiteral l = linkLiteral k) : l.segment = k.segment := by
  have hchars := congrArg String.toList h
  simp only [linkLiteral, String.toList_append, List.append_assoc,
    List.append_cancel_left_eq] at hchars
  exact String.toList_inj.mp (List.append_cancel_right hchars)

theorem segments_chars_inj (h : (segments links).chars = (segments more).chars) :
    links = more := by
  -- by induction on the links: the literal in front of an expression ends where this opens
  have hlast : Quoted.read (segments []).chars = some ([], .quote, []) := rfl
  have hnext : ∀ l links, Quoted.read (segments (l :: links)).chars = some ((linkLiteral l).toList,
      .hole, (linkExpression l).chars ++ '}' :: (segments links).chars) := by
    intro l links
    rw [segments, Segments.chars, List.append_assoc]
    exact Quoted.read_escape _ .hole _
  induction links generalizing more with
  | nil =>
    cases more with
    | nil => rfl
    | cons k more =>
      have hread := hlast.symm.trans ((congrArg Quoted.read h).trans (hnext k more))
      simp at hread
  | cons l links ih =>
    have hread := (hnext l links).symm.trans (congrArg Quoted.read h)
    cases more with
    | nil =>
      rw [hlast] at hread
      simp at hread
    | cons k more =>
      obtain ⟨hliteral, hopened⟩ := Prod.mk.inj (Option.some.inj (hread.trans (hnext k more)))
      obtain ⟨hname, hrest⟩ := member_chars_append_inj (Prod.mk.inj hopened).2
      have hsegment := linkLiteral_inj (String.toList_inj.mp hliteral)
      obtain rfl := ih (List.cons.inj hrest).2
      obtain ⟨segment, name⟩ := l
      obtain ⟨segment', name'⟩ := k
      obtain rfl : segment = segment' := hsegment
      obtain rfl : name = name' := hname
      rfl

theorem rootExpression_chars_ne (p : ScopePath) (first : String) (hole : Expr) (rest : Segments) :
    p.rootExpression.chars ≠ (Expr.interpolation first hole rest).chars := by
  intro h
  have hname : p.root.text.toList ≠ [] := by
    have hvalid := p.root.valid
    simp only [isName, Bool.and_eq_true, Bool.not_eq_true', List.isEmpty_eq_false_iff] at hvalid
    exact hvalid.1
  obtain ⟨c, text, hc⟩ := List.exists_cons_of_ne_nil hname
  have hword := p.root.isWordChar_of_mem c (hc ▸ List.mem_cons_self)
  rw [rootExpression, Expr.chars, Name.reference, Expr.chars, hc] at h
  obtain rfl := (List.cons.inj h).1
  exact absurd hword (by decide)

/-- The text of a resolved path tells its root and all its links. -/
theorem resolved_chars_inj (h : p.resolved.chars = q.resolved.chars) : p = q := by
  obtain ⟨root, links⟩ := p
  obtain ⟨root', links'⟩ := q
  cases links with
  | nil =>
    cases links' with
    | nil =>
      obtain ⟨rfl, -⟩ := member_chars_append_inj (congrArg (· ++ []) h)
      rfl
    | cons k links' => exact absurd h (rootExpression_chars_ne _ _ _ _)
  | cons l links =>
    cases links' with
    | nil => exact absurd h.symm (rootExpression_chars_ne _ _ _ _)
    | cons k links' =>
      simp only [resolved, Expr.chars, List.append_assoc, List.cons_append,
        List.append_cancel_left_eq, List.cons.injEq, true_and] at h
      obtain ⟨rfl, hrest⟩ := member_chars_append_inj h
      rw [segments_chars_inj (List.cons.inj hrest).2]

theorem render_resolved_inj (h : p.resolved.render = q.resolved.render) : p = q :=
  resolved_chars_inj (String.ofList_inj.mp h)

end Reading

end ScopePath

end BicepTemplates
