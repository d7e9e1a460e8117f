import BicepTemplates.Proofs.Azure.Cosmos.Bodies
import BicepTemplates.Proofs.ScopePath

/-! # The scopes of grants

A chain of names from the account downwards makes a scope if it has one, two or three of them. The
scope resolves as the path along these names does, and no other chain has the text it resolves to.
A chain of any other length is refused with a report from which it can be read off.
-/

namespace BicepTemplates.Cosmos.DataScope

/-- The names from the account down to the resource everything is granted on. -/
def ancestry : DataScope → List Name
  | account a => [a]
  | database a d => [a, d]
  | container a d c => [a, d, c]

def report (names : List Name) : String :=
  "ancestry of " ++ toString names.length ++ " levels (" ++
    " -> ".intercalate (names.map Name.text) ++ ")"

section Ancestries

variable {names more : List Name} {s : DataScope} {e : Error}

theorem ofAncestry_ancestry (s : DataScope) : ofAncestry s.ancestry = .ok s := by
  cases s <;> rfl

theorem ofAncestry_cases (names : List Name) : (∃ s, names = ancestry s) ∨
    (names = [] ∨ 3 < names.length) ∧
      ofAncestry names = .error (.unsupportedVariant "sql scope" (report names)) := by
  match names with
  | [] => exact .inr ⟨.inl rfl, rfl⟩
  | [a] => exact .inl ⟨.account a, rfl⟩
  | [a, d] => exact .inl ⟨.database a d, rfl⟩
  | [a, d, c] => exact .inl ⟨.container a d c, rfl⟩
  | a :: d :: c :: n :: rest =>
    refine .inr ⟨.inr ?_, rfl⟩
    simp only [List.length_cons]
    omega

theorem ofAncestry_eq_ok_iff : ofAncestry names = .ok s ↔ names = s.ancestry := by
  constructor
  · intro h
    rcases ofAncestry_cases names with ⟨s', rfl⟩ | ⟨-, herror⟩
    · rw [ofAncestry_ancestry] at h
      rw [Except.ok.inj h]
    · exact nomatch herror.symm.trans h
  · rintro rfl
    exact ofAncestry_ancestry s

theorem eq_report_of_ofAncestry (h : ofAncestry names = .error e) :
    e = .unsupportedVariant "sql scope" (report names) := by
  rcases ofAncestry_cases names with ⟨s, rfl⟩ | ⟨-, herror⟩
  · exact nomatch (ofAncestry_ancestry s).symm.trans h
  · exact Except.error.inj (h.symm.trans herror)

theorem exists_ofAncestry_iff :
    (∃ s, ofAncestry names = .ok s) ↔ 1 ≤ names.length ∧ names.length ≤ 3 := by
  constructor
  · rintro ⟨s, hs⟩
    obtain rfl := ofAncestry_eq_ok_iff.mp hs
    cases s <;> simp [ancestry]
  · rintro ⟨hpos, hle⟩
    rcases ofAncestry_cases names with ⟨s, rfl⟩ | ⟨rfl | hlong, -⟩
    · exact ⟨s, ofAncestry_ancestry s⟩
    · exact absurd hpos (by decide)
    · exact absurd hle (Nat.not_le.mpr hlong)

theorem path_eq (s : DataScope) : s.path =
    ⟨s.accountName, List.zipWith ScopeLink.mk ["dbs", "colls"] s.ancestry.tail⟩ := by
  cases s <;> rfl

theorem ancestry_eq_path (s : DataScope) :
    s.ancestry = s.path.root :: s.path.links.map ScopeLink.name := by
  cases s <;> rfl

end Ancestries

section Reports

variable {names more : List Name}

theorem chain_inj (h : " -> ".toList.intercalate (names.map fun n => n.text.toList) =
    " -> ".toList.intercalate (more.map fun n => n.text.toList)) : names = more := by
  -- a name ends at the space behind it
  have hsep : ∀ u : List Char, Ends isWordChar (" -> ".toList ++ u) :=
    fun _ => ends_cons.mpr (by decide)
  have hne : ∀ n : Name, ∀ u : List Char, n.text.toList ++ u ≠ [] := by
    intro n u hnil
    have hvalid := n.valid
    simp [isName, (List.append_eq_nil_iff.mp hnil).1] at hvalid
  cases names with
  | nil =>
    cases more with
    | nil => rfl
    | cons b more =>
      rw [List.map_cons, intercalate_cons] at h
      exact absurd h.symm (hne b _)
  | cons a names =>
    cases more with
    | nil =>
      rw [List.map_cons, intercalate_cons] at h
      exact absurd h (hne a _)
    | cons b more =>
      have hends : ∀ ns : List Name,
          Ends isWordChar (ns.flatMap (fun n => " -> ".toList ++ n.text.toList) ++ []) :=
        fun ns => ends_separated_append hsep ends_nil
      rw [List.map_cons, List.map_cons, intercalate_cons, intercalate_cons, List.flatMap_map,
        List.flatMap_map, ← List.append_nil (List.flatMap _ names),
        ← List.append_nil (List.flatMap _ more)] at h
      obtain ⟨rfl, hrest⟩ := Name.append_inj (hends names) (hends more) h
      have hnames := (separated_append_inj (e := id) hsep
        (fun m _ n _ r s hr hs => Name.append_inj hr hs) ends_nil ends_nil (by simp) (by simp)
        hrest).1
      rw [List.map_id, List.map_id] at hnames
      rw [hnames]

theorem report_inj (h : report names = report more) : names = more := by
  have hdigits : ∀ k : Nat, ∀ c ∈ (toString k).toList, isWordChar c = true := by
    intro k c hc
    rw [Nat.toString_eq_ofList_toDigits, String.toList_ofList] at hc
    exact isWordChar_of_mem_toDigits hc
  have hspace : ∀ u : List Char, Ends isWordChar (" levels (".toList ++ u) :=
    fun _ => ends_cons.mpr (by decide)
  unfold report at h
  have hchars := congrArg String.toList h
  simp only [String.toList_append, String.toList_intercalate, List.map_map,
    List.append_assoc, List.append_cancel_left_eq] at hchars
  obtain ⟨-, hrest⟩ := run_append_inj (hdigits _) (hdigits _) (hspace _) (hspace _) hchars
  rw [List.append_cancel_left_eq, List.append_cancel_right_eq] at hrest
  exact chain_inj hrest

end Reports

/-- Every path resolves, to the `id` of its root or to the string that goes down its links, and no
other path has the same text. One, two or three names make a scope, which resolves as the path
along these names; all other chains are reported in full. Scopes of different chains resolve to
different texts. -/
theorem ofAncestry_exact :
    (∀ p : ScopePath, ∃ e, p.resolve = .ok e ∧
      (p.links = [] → e = .member p.root.reference "id") ∧
      (p.links ≠ [] → e.interpolation? = some
        ⟨"" :: p.links.map (fun l => "/" ++ l.segment ++ "/") ++ [""],
          .member p.root.reference "id" :: p.links.map fun l => .member l.name.reference "name"⟩) ∧
      ∀ q e', q.resolve = .ok e' → e'.render = e.render → q = p) ∧
    (∀ names, (∃ s, ofAncestry names = .ok s) ↔ 1 ≤ names.length ∧ names.length ≤ 3) ∧
    (∀ names s, ofAncestry names = .ok s → names.head? = some s.accountName ∧
      s.path.depth = names.length - 1 ∧ s.resolve = ScopePath.resolve
        ⟨s.accountName, List.zipWith ScopeLink.mk ["dbs", "colls"] names.tail⟩) ∧
    (∀ names e, ofAncestry names = .error e →
      e = .unsupportedVariant "sql scope" ("ancestry of " ++ toString names.length ++ " levels (" ++
        " -> ".intercalate (names.map Name.text) ++ ")") ∧
      ∀ names', ofAncestry names' = .error e → names' = names) ∧
    ∀ names names' s s' e e', ofAncestry names = .ok s → ofAncestry names' = .ok s' →
      s.resolve = .ok e → s'.resolve = .ok e' → e.render = e'.render → names = names' := by
  have hinj : ∀ (p q : ScopePath) e e', p.resolve = .ok e → q.resolve = .ok e' →
      e.render = e'.render → p = q := by
    intro p q e e' hp hq htexts
    obtain rfl := Except.ok.inj (p.resolve_eq.symm.trans hp)
    obtain rfl := Except.ok.inj (q.resolve_eq.symm.trans hq)
    exact ScopePath.render_resolved_inj htexts
  refine ⟨fun p => ?paths, fun names => exists_ofAncestry_iff, fun names s h => ?scopes,
    fun names e h => ?reports, fun names names' s s' e e' h h' hs hs' htexts => ?texts⟩
  case paths =>
    refine ⟨p.resolved, p.resolve_eq, ScopePath.resolved_of_links_eq_nil,
      ScopePath.interpolation?_resolved, fun q e' hq htexts => ?_⟩
    exact hinj q p e' _ hq p.resolve_eq htexts
  case scopes =>
    obtain rfl := ofAncestry_eq_ok_iff.mp h
    refine ⟨?_, ?_, ?_⟩
    · cases s <;> rfl
    · cases s <;> rfl
    · rw [resolve, path_eq]
  case reports =>
    obtain rfl := eq_report_of_ofAncestry h
    refine ⟨rfl, fun names' h' => ?_⟩
    exact report_inj (Error.unsupportedVariant.inj (eq_report_of_ofAncestry h')).2.symm
  case texts =>
    obtain rfl := ofAncestry_eq_ok_iff.mp h
    obtain rfl := ofAncestry_eq_ok_iff.mp h'
    rw [ancestry_eq_path, ancestry_eq_path, hinj _ _ _ _ hs hs' htexts]

/-- A container is told from the database above it and a chain of four names is refused, while a
path of four links is resolved. -/
theorem ofAncestry_exact_items :
    let store : Name := ⟨"store", by decide⟩
    let orders : Name := ⟨"orders", by decide⟩
    let items : Name := ⟨"items", by decide⟩
    let deep : ScopePath := ⟨store, [⟨"dbs", orders⟩, ⟨"colls", items⟩, ⟨"sprocs", items⟩,
      ⟨"dbs", store⟩]⟩
    (∃ e, deep.resolve = .ok e ∧ e.interpolation? = some
      ⟨["", "/dbs/", "/colls/", "/sprocs/", "/dbs/", ""], [.member (.symbol "store") "id",
        .member (.symbol "orders") "name", .member (.symbol "items") "name",
        .member (.symbol "items") "name", .member (.symbol "store") "name"]⟩) ∧
    (∃ s e, ofAncestry [store, orders, items] = .ok s ∧ s.path.depth = 2 ∧ s.resolve = .ok e ∧
      ∀ s' e', ofAncestry [store, orders] = .ok s' → s'.resolve = .ok e' → e.render ≠ e'.render) ∧
    ∃ e, ofAncestry [store, orders, items, store] = .error e ∧ e.message =
      "unsupported sql scope: ancestry of 4 levels (store -> orders -> items -> store)" := by
  intro store orders items deep
  obtain ⟨hpaths, -, hscopes, hreports, htexts⟩ := ofAncestry_exact
  refine ⟨?path, ?scope, ?report⟩
  case path =>
    obtain ⟨e, he, -, hlinks, -⟩ := hpaths deep
    exact ⟨e, he, hlinks (List.cons_ne_nil _ _)⟩
  case scope =>
    have hs : ofAncestry [store, orders, items] = .ok (.container store orders items) := rfl
    have hresolve := ScopePath.resolve_eq (path (.container store orders items))
    refine ⟨_, _, hs, (hscopes _ _ hs).2.1, hresolve, fun s' e' hs' he' hrender => ?_⟩
    have hnames := htexts _ _ _ _ _ _ hs hs' hresolve he' hrender
    exact absurd (congrArg List.length hnames) (by decide)
  case report =>
    obtain ⟨he, -⟩ := hreports [store, orders, items, store] _ rfl
    exact ⟨_, rfl, by rw [he]; decide⟩

end BicepTemplates.Cosmos.DataScope
