import BicepTemplates.Azure.RoleAssignment
import BicepTemplates.Proofs.Expression.Opening
import BicepTemplates.Proofs.Registry.History
import BicepTemplates.Proofs.Success
import BicepTemplates.Proofs.Text.Guid

/-! # What the symbol of a role assignment tells

The seed of an assignment is put together without separators. A hyphen, a brace, a colon or a quote
behind its first word still shows where the scope ends and how long the role id is. Only a role id
without hyphens that runs into the word its principal starts with leaves that open, and then two
assignments may share a seed, and with it the symbol.
-/

namespace BicepTemplates

/-- The role id is one word and goes on into the first word of the principal. -/
structure Assignment.RunsOn (a : Assignment) : Prop where
  plain : Guid.isGrouped [32] a.roleDefinitionId.toList = true
  word : ¬ Ends isWordChar a.principalId.chars

/-- How role and principal follow the scope in a seed. -/
inductive Joint where
  | runsOn
  /-- The role id is one word, and the principal starts with another character. -/
  | plain
  | hyphenated
  | braced
  | urn

namespace Joint

/-- The joint is told by what follows the first word of the seed. Behind a minus sign there is no
second hyphen. -/
def ofRest : List Char → Joint
  | '\'' :: _ => plain
  | '{' :: _ => braced
  | ':' :: _ => urn
  | '-' :: rest => if (rest.dropWhile isWordChar).head? = some '-' then hyphenated else plain
  | _ => runsOn

def roleLength : Joint → Nat
  | runsOn => 32
  | plain => 32
  | hyphenated => 36
  | braced => 38
  | urn => 45

def wordLength? : Joint → Option Nat
  | runsOn => none
  | plain => some 32
  | hyphenated => some 8
  | braced => some 0
  | urn => some 3

end Joint

/-- Role and principal, parted behind their first word. -/
structure Cut (role principal word rest : List Char) : Prop where
  text_eq : role ++ principal = word ++ rest
  isWord : ∀ c ∈ word, isWordChar c = true
  ends : Ends isWordChar rest
  length_role : role.length = (Joint.ofRest rest).roleLength
  length_word : (Joint.ofRest rest).wordLength? = some word.length ∨
    (Joint.ofRest rest).wordLength? = none ∧ Guid.isGrouped [32] role = true ∧
      ¬ Ends isWordChar principal

section Cuts

variable {role principal role' principal' v w rest : List Char}

theorem exists_cut_of_plain (hrole : Guid.isGrouped [32] role = true)
    (hprincipal : Opening principal) : ∃ word rest, Cut role principal word rest := by
  obtain ⟨hlength, hword⟩ := Guid.isGrouped_single hrole
  cases hprincipal with
  | @word w r hne hw hr =>
    have hjoint : Joint.ofRest r = .runsOn := by cases hr <;> rfl
    have hopen : ¬ Ends isWordChar (w ++ r) := by
      obtain ⟨c, w, rfl⟩ := List.exists_cons_of_ne_nil hne
      simp [hw c List.mem_cons_self]
    refine ⟨role ++ w, r, by simp, List.forall_mem_append.mpr ⟨hword, hw⟩, hr.ends, ?_, .inr ?_⟩
    · rw [hjoint, hlength, Joint.roleLength]
    · exact ⟨by rw [hjoint, Joint.wordLength?], hrole, hopen⟩
  | quote rest =>
    refine ⟨role, '\'' :: rest, rfl, hword, ends_cons.mpr (by decide), hlength, .inl ?_⟩
    rw [hlength, Joint.ofRest, Joint.wordLength?]
  | @minus w r hw hr =>
    have hjoint : Joint.ofRest ('-' :: (w ++ r)) = .plain := by
      rw [Joint.ofRest, dropWhile_append_of_ends hw hr.ends]
      cases hr <;> rfl
    refine ⟨role, '-' :: (w ++ r), rfl, hword, ends_cons.mpr (by decide), ?_, .inl ?_⟩
    · rw [hjoint, hlength, Joint.roleLength]
    · rw [hjoint, hlength, Joint.wordLength?]

theorem exists_cut (hrole : Guid.Spelled role) (hprincipal : Opening principal) :
    ∃ word rest, Cut role principal word rest := by
  cases hrole with
  | plain h => exact exists_cut_of_plain h hprincipal
  | @hyphenated first second rest hfirst hlength hsecond hrest =>
    have hends : Ends isWordChar ('-' :: (rest ++ principal)) := ends_cons.mpr (by decide)
    have hjoint : Joint.ofRest ('-' :: (second ++ '-' :: (rest ++ principal))) = .hyphenated := by
      rw [Joint.ofRest, dropWhile_append_of_ends hsecond hends]
      rfl
    refine ⟨first, '-' :: (second ++ '-' :: (rest ++ principal)), by simp, hfirst,
      ends_cons.mpr (by decide), ?_, .inl ?_⟩
    · rw [hjoint, List.length_append, hlength, List.length_cons, hrest, Joint.roleLength]
    · rw [hjoint, hlength, Joint.wordLength?]
  | @braced rest hrest =>
    refine ⟨[], '{' :: (rest ++ principal), rfl, by simp, ends_cons.mpr (by decide), ?_, .inl rfl⟩
    rw [List.length_cons, hrest, Joint.ofRest, Joint.roleLength]
  | @urn scheme rest hscheme hlength hrest =>
    refine ⟨scheme, ':' :: (rest ++ principal), by simp, hscheme, ends_cons.mpr (by decide), ?_,
      .inl ?_⟩
    · rw [List.length_append, hlength, List.length_cons, hrest, Joint.ofRest, Joint.roleLength]
    · rw [hlength, Joint.ofRest, Joint.wordLength?]

/-- What follows the first word tells how much of it belongs to the role, unless both roles run
on. -/
theorem Cut.length_eq_or_runsOn (hv : Cut role principal v rest)
    (hw : Cut role' principal' w rest) : v.length = w.length ∨
      (Guid.isGrouped [32] role = true ∧ ¬ Ends isWordChar principal) ∧
        Guid.isGrouped [32] role' = true ∧ ¬ Ends isWordChar principal' := by
  rcases hv.length_word with hv | ⟨hnone, hopen⟩ <;>
    rcases hw.length_word with hw | ⟨hnone', hopen'⟩
  · exact .inl (Option.some.inj (hv.symm.trans hw))
  · exact nomatch hv.symm.trans hnone'
  · exact nomatch hw.symm.trans hnone
  · exact .inr ⟨hopen, hopen'⟩

end Cuts

section Seeds

theorem type_append_inj {t u : PrincipalType} {v w : List Char}
    (h : v ++ t.text.toList = w ++ u.text.toList) : t = u ∧ v = w := by
  have hlast : t.text.toList.getLast? = u.text.toList.getLast? := by
    have hlasts := congrArg List.getLast? h
    rw [List.getLast?_append, List.getLast?_append] at hlasts
    cases t <;> cases u <;> exact hlasts
  obtain rfl : t = u := by
    revert hlast
    cases t <;> cases u <;> decide
  exact ⟨rfl, List.append_cancel_right h⟩

variable {a b : Assignment}

theorem Assignment.toList_seed (a : Assignment) : a.seed.toList =
    a.scope.text.toList ++ (a.roleDefinitionId.toList ++ a.principalId.chars) ++
      a.principalType.text.toList := by
  simp [seed, Expr.render]

/-- Assignments with one seed are the same, unless both roles run into their principals behind
scopes of different lengths. -/
theorem Assignment.eq_or_runsOn_of_seed_eq (ha : Guid.isGuid a.roleDefinitionId = true)
    (hb : Guid.isGuid b.roleDefinitionId = true) (hpa : a.principalId.isWellFormed = true)
    (hpb : b.principalId.isWellFormed = true) (h : a.seed = b.seed) :
    a.principalType = b.principalType ∧
      (a = b ∨ a.RunsOn ∧ b.RunsOn ∧ a.scope.text.length ≠ b.scope.text.length) := by
  have hseed := congrArg String.toList h
  rw [toList_seed, toList_seed] at hseed
  obtain ⟨htype, htext⟩ := type_append_inj hseed
  refine ⟨htype, ?_⟩
  obtain ⟨v, r, hv⟩ := exists_cut (Guid.spelled_of_isGuid ha) (a.principalId.opening hpa)
  obtain ⟨w, s, hw⟩ := exists_cut (Guid.spelled_of_isGuid hb) (b.principalId.opening hpb)
  have hword : a.scope.text.toList ++ v = b.scope.text.toList ++ w ∧ r = s := by
    refine run_append_inj ?_ ?_ hv.ends hw.ends ?_
    · exact List.forall_mem_append.mpr ⟨a.scope.isWordChar_of_mem, hv.isWord⟩
    · exact List.forall_mem_append.mpr ⟨b.scope.isWordChar_of_mem, hw.isWord⟩
    · rwa [List.append_assoc, List.append_assoc, ← hv.text_eq, ← hw.text_eq]
  obtain ⟨hword, rfl⟩ := hword
  by_cases hscopes : a.scope.text.length = b.scope.text.length
  · left
    obtain ⟨hscope, hrest⟩ := List.append_inj htext hscopes
    obtain ⟨hrole, hprincipal⟩ := List.append_inj hrest (hv.length_role.trans hw.length_role.symm)
    have hchars : a.principalId.chars ++ [] = b.principalId.chars ++ [] := by rw [hprincipal]
    have hexpr := (Expr.chars_append_inj hpa hpb ends_nil ends_nil hchars).1
    cases a
    cases b
    obtain rfl := Name.eq_of_text_eq (String.toList_inj.mp hscope)
    obtain rfl := String.toList_inj.mp hrole
    cases htype
    cases hexpr
    rfl
  · right
    have hlength := congrArg List.length hword
    rw [List.length_append, List.length_append] at hlength
    rcases hv.length_eq_or_runsOn hw with hsame | ⟨⟨hplain, hopen⟩, hplain', hopen'⟩
    · exact absurd (Nat.add_right_cancel (hsame ▸ hlength)) hscopes
    · exact ⟨⟨hplain, hopen⟩, ⟨hplain', hopen'⟩, hscopes⟩

end Seeds

namespace RoleAssignment

variable {a b : Assignment} {x y : RoleAssignment} {r r₁ r₂ r₃ : Registry} {n : Name}
  {i : Identification}

theorem run_allocate (a : Assignment) (i : Identification) (r : Registry) :
    (allocate a i).run r = (((Registry.allocateBy i.identify a.seed).run r).1.map fun _ => new a i,
      ((Registry.allocateBy i.identify a.seed).run r).2) :=
  run_return_of_run_eq _ (Registry.run_allocateName stem a.seed i r)

theorem run_allocate_of_seedOf? (h : r.seedOf? (i.identify a.seed) = some a.seed) :
    (allocate a i).run r = (.ok (new a i), r) := by
  rw [run_allocate, Registry.run_allocateBy_of_seedOf? h]
  rfl

theorem registered_of_run_allocate (h : (allocate a i).run r = (.ok x, r₁)) :
    x = new a i ∧ r₁ = ((Registry.allocateBy i.identify a.seed).run r).2 ∧
      r₁.seedOf? (i.identify a.seed) = some a.seed := by
  rw [run_allocate] at h
  obtain ⟨hx, rfl⟩ := Prod.mk.inj h
  refine ⟨eq_of_map_eq_ok hx, rfl, ?_⟩
  rcases Registry.run_allocateBy_cases i.identify a.seed r with ⟨s, hrun, -, hseed⟩ | ⟨e, hrun⟩
  · rwa [hrun]
  · rw [hrun] at hx
    exact nomatch hx

theorem check_rules_eq_ok_iff :
    Rule.check (named n a).rules = .ok () ↔ Guid.isGuid a.roleDefinitionId = true := by
  rw [Rule.check_eq_ok_iff, rules, List.forall_mem_singleton, Rule.forbid]
  cases h : Guid.isGuid a.roleDefinitionId <;> simp [named, h]

theorem run_allocate_empty (a : Assignment) (i : Identification) :
    (allocate a i).run {} = (.ok (new a i), ⟨[(i.identify a.seed, a.seed)]⟩) := by
  rw [run_allocate]
  rfl

theorem run_allocate_of_seed_eq (ha : (allocate a i).run r = (.ok x, r₁))
    (hgrows : r₁.Grows i.identify r₂) (hseed : a.seed = b.seed) :
    (allocate b i).run r₂ = (.ok (named x.header.name b), r₂) := by
  obtain ⟨rfl, -, hregistered⟩ := registered_of_run_allocate ha
  have hkept := hgrows.seedOf?_eq hregistered
  rw [hseed] at hkept
  rw [run_allocate_of_seedOf? hkept, new, new, hseed]
  rfl

/-- Whichever way seeds are identified, two assignments that are given one symbol by the same
registry, whatever it allocates in between, agree in the kind of principal. They are the same,
unless both roles run into their principals behind scopes of different lengths. -/
theorem eq_or_runsOn_of_name_eq (ha : (allocate a i).run r = (.ok x, r₁))
    (hgrows : r₁.Grows i.identify r₂) (hb : (allocate b i).run r₂ = (.ok y, r₃))
    (hx : Rule.check x.rules = .ok ()) (hy : Rule.check y.rules = .ok ())
    (hpa : a.principalId.isWellFormed = true) (hpb : b.principalId.isWellFormed = true)
    (hname : x.header.name = y.header.name) :
    a.principalType = b.principalType ∧
      (a = b ∨ a.RunsOn ∧ b.RunsOn ∧ a.scope.text.length ≠ b.scope.text.length) := by
  obtain ⟨rfl, -, hseed⟩ := registered_of_run_allocate ha
  obtain ⟨rfl, rfl, hseed'⟩ := registered_of_run_allocate hb
  have hidentify : i.identify a.seed = i.identify b.seed := Name.identify_eq_of_generated_eq hname
  have hkept := (hgrows.allocate b.seed).seedOf?_eq hseed
  rw [hidentify] at hkept
  have hsame : a.seed = b.seed := Option.some.inj (hkept.symm.trans hseed')
  exact Assignment.eq_or_runsOn_of_seed_eq (check_rules_eq_ok_iff.mp hx)
    (check_rules_eq_ok_iff.mp hy) hpa hpb hsame

/-- The first digit of one role id is the last character of the other scope. -/
theorem runsOn_of_name_eq :
    let vault : Assignment := ⟨⟨"vault", by decide⟩, "b86a8fe444ce4948aee5eccb2c155cd7",
      .member (.symbol "app") "id", .user⟩
    let vaultb : Assignment := ⟨⟨"vaultb", by decide⟩, "86a8fe444ce4948aee5eccb2c155cd7a",
      .member (.symbol "pp") "id", .user⟩
    ∃ x y r₁ r₂, (allocate vault).run {} = (.ok x, r₁) ∧ r₁.Grows identifier r₂ ∧
      (allocate vaultb).run r₂ = (.ok y, r₂) ∧ Rule.check x.rules = .ok () ∧
      Rule.check y.rules = .ok () ∧ x.header.name = y.header.name ∧
      vault.RunsOn ∧ vaultb.RunsOn := by
  intro vault vaultb
  have hfirst := run_allocate_empty vault .digest
  have hgrows : Registry.Grows identifier ⟨[(identifier vault.seed, vault.seed)]⟩ _ :=
    .allocate .refl "vault"
  have hsecond := run_allocate_of_seed_eq hfirst hgrows (b := vaultb) (by decide)
  have hguid : Guid.isGuid vault.roleDefinitionId = true := by decide
  have hguid' : Guid.isGuid vaultb.roleDefinitionId = true := by decide
  refine ⟨_, _, _, _, hfirst, hgrows, hsecond, check_rules_eq_ok_iff.mpr hguid,
    check_rules_eq_ok_iff.mpr hguid', rfl, ?_⟩
  obtain ⟨-, heq | ⟨hvault, hvaultb, -⟩⟩ := eq_or_runsOn_of_name_eq hfirst hgrows hsecond
    (check_rules_eq_ok_iff.mpr hguid) (check_rules_eq_ok_iff.mpr hguid') (by decide) (by decide) rfl
  · exact absurd (congrArg Assignment.scope heq) (by decide)
  · exact ⟨hvault, hvaultb⟩

/-- Different scopes, roles and principals end up under one symbol. -/
theorem name_eq_of_runsOn :
    let cache : Assignment := ⟨⟨"cache", by decide⟩, "4633458b17de408ab8740445c86b69e6",
      .symbol "appId", .servicePrincipal⟩
    let cache4 : Assignment := ⟨⟨"cache4", by decide⟩, "633458b17de408ab8740445c86b69e6a",
      .symbol "ppId", .servicePrincipal⟩
    ∃ x y r₁ r₂, (allocate cache).run {} = (.ok x, r₁) ∧ (allocate cache4).run r₁ = (.ok y, r₂) ∧
      Rule.check x.rules = .ok () ∧ Rule.check y.rules = .ok () ∧
      x.header.name = y.header.name ∧ cache.scope ≠ cache4.scope ∧
      cache.roleDefinitionId ≠ cache4.roleDefinitionId ∧
      cache.principalId ≠ cache4.principalId := by
  intro cache cache4
  have hfirst := run_allocate_empty cache .digest
  have hsecond := run_allocate_of_seed_eq hfirst .refl (b := cache4) (by decide)
  refine ⟨_, _, _, _, hfirst, hsecond, check_rules_eq_ok_iff.mpr (by decide),
    check_rules_eq_ok_iff.mpr (by decide), rfl, by decide, by decide, fun h => ?_⟩
  exact absurd (Expr.symbol.inj h) (by decide)

end RoleAssignment

end BicepTemplates
