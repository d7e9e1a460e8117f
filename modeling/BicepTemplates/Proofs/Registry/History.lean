import BicepTemplates.Proofs.Success
import BicepTemplates.Registry

/-! # What a registry issues

Requests come one after the other, with any beginnings and any seeds, and a failure does not stop
those that follow. At each moment the registry holds the seeds that were served, each once and with
its identifier. A request is refused exactly if its identifier belongs to another seed, and leaves
no trace then. Since identifiers are all of one width, a name tells its beginning and its seed.
-/

namespace BicepTemplates.Registry

/-- A request for the identifier of a seed, alone or after a beginning. -/
inductive Request where
  | plain (seed : String)
  | after (beginning seed : String)
  deriving DecidableEq, Repr

namespace Request

def seed : Request → String
  | plain seed => seed
  | after _ seed => seed

def run (identify : String → String) : Request → Allocation String
  | plain seed => allocateBy identify seed
  | after beginning seed => allocateAfterBy identify beginning seed

/-- What a request is given if it succeeds. -/
def name (identify : String → String) : Request → String
  | plain seed => identify seed
  | after beginning seed => beginning ++ identify seed

end Request

structure Reply where
  request : Request
  answer : Except Error String

/-- All replies so far, and what the registry holds now. -/
structure History where
  log : List Reply := []
  registry : Registry := {}

namespace History

variable (identify : String → String)

def answer (h : History) (q : Request) : Except Error String :=
  ((q.run identify).run h.registry).1

def serve (h : History) (q : Request) : History :=
  ⟨h.log ++ [⟨q, h.answer identify q⟩], ((q.run identify).run h.registry).2⟩

/-- The history of a registry that was empty at first. -/
def ofRequests (requests : List Request) : History :=
  requests.foldl (serve identify) {}

/-- The seeds that were served, in order and as often as they were. -/
def served (h : History) : List String :=
  h.log.filterMap fun reply =>
    match reply.answer with
    | .ok _ => some reply.request.seed
    | .error _ => none

end History

theorem run_allocateBy (identify : String → String) (seed : String) (r : Registry) :
    (allocateBy identify seed).run r = match r.seedOf? (identify seed) with
      | some first =>
        if first = seed then (.ok (identify seed), r)
        else (.error (.identifierCollision (identify seed) first seed), r)
      | none => (.ok (identify seed), ⟨r.issued ++ [(identify seed, seed)]⟩) := by
  have hget : (allocateBy identify seed).run r = (match r.seedOf? (identify seed) with
      | some first =>
        if first = seed then return identify seed
        else throw (.identifierCollision (identify seed) first seed)
      | none => do
        modify fun r => { r with issued := r.issued ++ [(identify seed, seed)] }
        return identify seed : Allocation String).run r := rfl
  rw [hget]
  cases r.seedOf? (identify seed) with
  | none => rfl
  | some first =>
    by_cases h : first = seed
    · simp only [if_pos h]
      rfl
    · simp only [if_neg h]
      rfl

theorem run_allocateAfterBy (identify : String → String) (beginning seed : String)
    (r : Registry) : (allocateAfterBy identify beginning seed).run r =
      (((allocateBy identify seed).run r).1.map (beginning ++ ·),
        ((allocateBy identify seed).run r).2) := by
  have hmap : (allocateAfterBy identify beginning seed).run =
      Except.map (beginning ++ ·) <$> (allocateBy identify seed).run := by
    simp [allocateAfterBy]
  rw [hmap]
  rfl

theorem Request.run_eq (identify : String → String) (q : Request) (r : Registry) :
    (q.run identify).run r = match r.seedOf? (identify q.seed) with
      | some first =>
        if first = q.seed then (.ok (q.name identify), r)
        else (.error (.identifierCollision (identify q.seed) first q.seed), r)
      | none => (.ok (q.name identify), ⟨r.issued ++ [(identify q.seed, q.seed)]⟩) := by
  cases q with
  | plain seed => exact run_allocateBy identify seed r
  | after beginning seed =>
    rw [run, run_allocateAfterBy, run_allocateBy]
    simp only [Request.seed, name]
    cases r.seedOf? (identify seed) with
    | none => rfl
    | some first => by_cases h : first = seed <;> simp [h, Except.map]

/-- What a registry holds is what the log says was served. -/
structure History.Lawful (identify : String → String) (h : History) : Prop where
  issued_eq : h.registry.issued = h.served.eraseDups.map fun seed => (identify seed, seed)
  seed_unique : ∀ s ∈ h.served, ∀ t ∈ h.served, identify s = identify t → s = t
  name_eq : ∀ reply ∈ h.log, ∀ name, reply.answer = .ok name → name = reply.request.name identify

namespace History

variable {identify : String → String} {h : History} {q : Request}

theorem mem_served_of_ok {name : String} (hm : ⟨q, .ok name⟩ ∈ h.log) : q.seed ∈ h.served :=
  List.mem_filterMap.mpr ⟨_, hm, rfl⟩

theorem served_serve_of_ok {name : String} (ha : h.answer identify q = .ok name) :
    (h.serve identify q).served = h.served ++ [q.seed] := by
  simp [served, serve, ha]

theorem served_serve_of_error {e : Error} (ha : h.answer identify q = .error e) :
    (h.serve identify q).served = h.served := by
  simp [served, serve, ha]

theorem Lawful.seedOf?_eq_some_iff (hl : h.Lawful identify) {identifier seed : String} :
    h.registry.seedOf? identifier = some seed ↔ seed ∈ h.served ∧ identify seed = identifier := by
  have hfind : h.registry.seedOf? identifier =
      h.served.eraseDups.find? fun seed => identify seed == identifier := by
    unfold seedOf?
    rw [hl.issued_eq, List.find?_map, Option.map_map]
    exact Option.map_id'
  rw [hfind]
  constructor
  · intro hs
    exact ⟨List.mem_eraseDups.mp (List.mem_of_find?_eq_some hs), by
      simpa using List.find?_some hs⟩
  · rintro ⟨hserved, rfl⟩
    cases hs : h.served.eraseDups.find? fun t => identify t == identify seed with
    | none =>
      have hne := List.find?_eq_none.mp hs seed (List.mem_eraseDups.mpr hserved)
      exact absurd (beq_self_eq_true _) hne
    | some first =>
      have hfirst := List.mem_eraseDups.mp (List.mem_of_find?_eq_some hs)
      have hidentify : identify first = identify seed := by simpa using List.find?_some hs
      rw [hl.seed_unique first hfirst seed hserved hidentify]

theorem Lawful.seedOf?_eq_none_iff (hl : h.Lawful identify) {identifier : String} :
    h.registry.seedOf? identifier = none ↔ ∀ seed ∈ h.served, identify seed ≠ identifier := by
  unfold seedOf?
  rw [hl.issued_eq]
  simp

theorem Lawful.serve_cases (hl : h.Lawful identify) (q : Request) :
    (q.seed ∈ h.served ∧ h.answer identify q = .ok (q.name identify) ∧
      (h.serve identify q).registry = h.registry) ∨
    (∃ first ∈ h.served, first ≠ q.seed ∧ identify first = identify q.seed ∧
      h.answer identify q = .error (.identifierCollision (identify q.seed) first q.seed) ∧
      (h.serve identify q).registry = h.registry) ∨
    ((∀ first ∈ h.served, identify first ≠ identify q.seed) ∧
      h.answer identify q = .ok (q.name identify) ∧
      (h.serve identify q).registry = ⟨h.registry.issued ++ [(identify q.seed, q.seed)]⟩) := by
  rw [History.serve, History.answer, Request.run_eq]
  cases hs : h.registry.seedOf? (identify q.seed) with
  | none => exact .inr (.inr ⟨hl.seedOf?_eq_none_iff.mp hs, rfl, rfl⟩)
  | some first =>
    obtain ⟨hserved, hidentify⟩ := hl.seedOf?_eq_some_iff.mp hs
    by_cases hfirst : first = q.seed
    · exact .inl ⟨hfirst ▸ hserved, by simp [hfirst]⟩
    · exact .inr (.inl ⟨first, hserved, hfirst, hidentify, by simp [hfirst]⟩)

theorem lawful_empty : ({} : History).Lawful identify where
  issued_eq := rfl
  seed_unique := fun _ hs => absurd hs List.not_mem_nil
  name_eq := fun _ hm => absurd hm List.not_mem_nil

theorem eraseDups_concat_of_mem {seeds : List String} {seed : String} (hm : seed ∈ seeds) :
    (seeds ++ [seed]).eraseDups = seeds.eraseDups := by
  simp [List.eraseDups_append, List.removeAll, hm]

theorem eraseDups_concat_of_not_mem {seeds : List String} {seed : String} (hm : seed ∉ seeds) :
    (seeds ++ [seed]).eraseDups = seeds.eraseDups ++ [seed] := by
  simp [List.eraseDups_append, List.eraseDups_cons, List.removeAll, hm]

theorem Lawful.name_eq_of_serve (hl : h.Lawful identify)
    (hq : ∀ name, h.answer identify q = .ok name → name = q.name identify) :
    ∀ reply ∈ (h.serve identify q).log, ∀ name, reply.answer = .ok name →
      name = reply.request.name identify := by
  intro reply hm
  rcases List.mem_append.mp hm with hold | hnew
  · exact hl.name_eq reply hold
  · obtain rfl := List.mem_singleton.mp hnew
    exact hq

/-- A request keeps the registry in step with the log, whatever it is answered. -/
theorem Lawful.serve (hl : h.Lawful identify) (q : Request) :
    (h.serve identify q).Lawful identify := by
  rcases hl.serve_cases q with ⟨hseed, ha, hr⟩ | ⟨first, -, -, -, ha, hr⟩ | ⟨hnew, ha, hr⟩
  case inl =>
    refine ⟨?_, ?_, hl.name_eq_of_serve fun name hn => (Except.ok.inj (ha.symm.trans hn)).symm⟩
    · rw [hr, served_serve_of_ok ha, eraseDups_concat_of_mem hseed, hl.issued_eq]
    · have hmem : ∀ s ∈ h.served ++ [q.seed], s ∈ h.served := by
        rw [List.forall_mem_append]
        exact ⟨fun _ => id, by simpa using hseed⟩
      rw [served_serve_of_ok ha]
      exact fun s hs t ht => hl.seed_unique s (hmem s hs) t (hmem t ht)
  case inr.inl =>
    refine ⟨?_, ?_, hl.name_eq_of_serve fun name hn => nomatch ha.symm.trans hn⟩
    · rw [hr, served_serve_of_error ha, hl.issued_eq]
    · rw [served_serve_of_error ha]
      exact hl.seed_unique
  case inr.inr =>
    have hseed : q.seed ∉ h.served := fun hm => hnew q.seed hm rfl
    refine ⟨?_, ?_, hl.name_eq_of_serve fun name hn => (Except.ok.inj (ha.symm.trans hn)).symm⟩
    · rw [hr, served_serve_of_ok ha, eraseDups_concat_of_not_mem hseed, hl.issued_eq,
        List.map_append, List.map_singleton]
    · rw [served_serve_of_ok ha]
      intro s hs t ht hst
      rcases List.mem_append.mp hs with hs | hs <;> rcases List.mem_append.mp ht with ht | ht
      · exact hl.seed_unique s hs t ht hst
      · obtain rfl := List.mem_singleton.mp ht
        exact absurd hst (hnew s hs)
      · obtain rfl := List.mem_singleton.mp hs
        exact absurd hst.symm (hnew t ht)
      · rw [List.mem_singleton.mp hs, List.mem_singleton.mp ht]

theorem Lawful.foldl (hl : h.Lawful identify) (requests : List Request) :
    (requests.foldl (History.serve identify) h).Lawful identify := by
  induction requests generalizing h with
  | nil => exact hl
  | cons q requests ih => exact ih (hl.serve q)

theorem lawful_ofRequests (requests : List Request) :
    (ofRequests identify requests).Lawful identify :=
  lawful_empty.foldl requests

theorem mem_served_serve_iff {seed : String} : seed ∈ (h.serve identify q).served ↔
    seed ∈ h.served ∨ (∃ name, h.answer identify q = .ok name) ∧ q.seed = seed := by
  cases ha : h.answer identify q with
  | ok name => simp [served_serve_of_ok ha, eq_comm]
  | error e => simp [served_serve_of_error ha]

theorem mem_served_foldl_iff {requests : List Request} {seed : String} :
    seed ∈ (requests.foldl (serve identify) h).served ↔ seed ∈ h.served ∨
      ∃ before q after, requests = before ++ q :: after ∧
        (∃ name, (before.foldl (serve identify) h).answer identify q = .ok name) ∧
          q.seed = seed := by
  induction requests generalizing h with
  | nil => simp
  | cons p requests ih =>
    rw [List.foldl_cons, ih, mem_served_serve_iff]
    constructor
    · rintro ((hserved | hp) | ⟨before, q, after, rfl, hq⟩)
      · exact .inl hserved
      · exact .inr ⟨[], p, requests, rfl, hp⟩
      · exact .inr ⟨p :: before, q, after, rfl, hq⟩
    · rintro (hserved | ⟨_ | ⟨first, before⟩, q, after, hrequests, hq⟩)
      · exact .inl (.inl hserved)
      · obtain ⟨rfl, rfl⟩ := List.cons.inj hrequests
        exact .inl (.inr hq)
      · obtain ⟨rfl, rfl⟩ := List.cons.inj hrequests
        exact .inr ⟨before, q, after, rfl, hq⟩

theorem Lawful.answer_eq_error_iff (hl : h.Lawful identify) {e : Error} :
    h.answer identify q = .error e ↔ ∃ first ∈ h.served, first ≠ q.seed ∧
      identify first = identify q.seed ∧
        e = .identifierCollision (identify q.seed) first q.seed := by
  have hunique := hl.seed_unique
  rcases hl.serve_cases q with ⟨hseed, ha, -⟩ | ⟨first, hserved, hne, hsame, ha, -⟩ | ⟨hnew, ha, -⟩
  · rw [ha]
    constructor
    · exact nofun
    · rintro ⟨first, hfirst, hne, hsame, -⟩
      exact absurd (hunique first hfirst q.seed hseed hsame) hne
  · rw [ha]
    constructor
    · intro he
      exact ⟨first, hserved, hne, hsame, (Except.error.inj he).symm⟩
    · rintro ⟨other, hother, -, hother', rfl⟩
      rw [hunique first hserved other hother (hsame.trans hother'.symm)]
  · rw [ha]
    constructor
    · exact nofun
    · rintro ⟨first, hfirst, -, hsame, -⟩
      exact absurd hsame (hnew first hfirst)

theorem Lawful.registry_of_error (hl : h.Lawful identify) {e : Error}
    (he : h.answer identify q = .error e) : (h.serve identify q).registry = h.registry := by
  rcases hl.serve_cases q with ⟨-, -, hr⟩ | ⟨_, -, -, -, -, hr⟩ | ⟨-, ha, -⟩
  · exact hr
  · exact hr
  · exact nomatch he.symm.trans ha

theorem Lawful.after_inj (hl : h.Lawful identify)
    (hwidth : ∀ s t, (identify s).length = (identify t).length) {b s b' s' name : String}
    (hm : ⟨.after b s, .ok name⟩ ∈ h.log) (hm' : ⟨.after b' s', .ok name⟩ ∈ h.log) :
    b = b' ∧ s = s' := by
  have hname : b ++ identify s = b' ++ identify s' :=
    (hl.name_eq _ hm name rfl).symm.trans (hl.name_eq _ hm' name rfl)
  have hlists : b.toList ++ (identify s).toList = b'.toList ++ (identify s').toList := by
    simpa using congrArg String.toList hname
  obtain ⟨hb, hs⟩ := List.append_inj' hlists (hwidth s s')
  exact ⟨String.toList_inj.mp hb, hl.seed_unique s (mem_served_of_ok hm) s'
    (mem_served_of_ok hm') (String.toList_inj.mp hs)⟩

/-- Whichever way seeds are identified, at each moment the registry holds the seeds that were
served, in the order of their first allocation. The next request is refused exactly if its
identifier was issued for another seed, and nothing changes then. No name is given out for two
beginnings or two seeds. -/
theorem ofRequests_refuses_collisions (hwidth : ∀ seed, (identify seed).length = 8)
    (requests : List Request) :
    let h := ofRequests identify requests
    h.registry.issued = h.served.eraseDups.map (fun seed => (identify seed, seed)) ∧
      (∀ q e, h.answer identify q = .error e ↔ ∃ first ∈ h.served, first ≠ q.seed ∧
        identify first = identify q.seed ∧
          e = .identifierCollision (identify q.seed) first q.seed) ∧
      (∀ q e, h.answer identify q = .error e → (h.serve identify q).registry = h.registry) ∧
      ∀ b s b' s' name, ⟨.after b s, .ok name⟩ ∈ h.log → ⟨.after b' s', .ok name⟩ ∈ h.log →
        b = b' ∧ s = s' := by
  intro h
  have hl : h.Lawful identify := lawful_ofRequests requests
  refine ⟨hl.issued_eq, fun q e => hl.answer_eq_error_iff, fun q e => hl.registry_of_error, ?_⟩
  intro b s b' s' name
  exact hl.after_inj fun s t => (hwidth s).trans (hwidth t).symm

/-- Of two seeds with one identifier, the first is served under every name and the other never. -/
theorem ofRequests_of_one_identifier :
    let identify := fun _ : String => "0BADF00D"
    let h := ofRequests identify [.after "uai_" "a", .plain "b", .after "er_" "a"]
    (∀ seed, (identify seed).length = 8) ∧ h.registry.issued = [("0BADF00D", "a")] ∧
      h.answer identify (.plain "b") = .error (.identifierCollision "0BADF00D" "a" "b") ∧
      (h.serve identify (.plain "b")).registry = h.registry := by
  intro identify h
  have hwidth : ∀ seed, (identify seed).length = 8 := fun _ => by decide
  obtain ⟨hissued, hrefused, hkept, -⟩ := ofRequests_refuses_collisions hwidth
    [.after "uai_" "a", .plain "b", .after "er_" "a"]
  have hserved : h.served = ["a", "a"] := rfl
  have ha := (hrefused (.plain "b") _).mpr ⟨"a", by rw [hserved]; decide, by decide, rfl, rfl⟩
  refine ⟨hwidth, ?_, ha, hkept _ _ ha⟩
  rw [hissued, hserved]
  rfl

end History

theorem identifier_vault166 : identifier "vault166" = identifier "maps952" := by
  decide +kernel

/-- A registry that further allocations, of any seeds, make of another one. -/
inductive Grows (identify : String → String) (r : Registry) : Registry → Prop where
  | refl : Grows identify r r
  | allocate {s : Registry} (h : Grows identify r s) (seed : String) :
      Grows identify r ((allocateBy identify seed).run s).2

section Growth

variable {identify : String → String} {r s : Registry} {seed : String}

theorem Grows.seedOf?_eq (h : r.Grows identify s) {identifier : String}
    (hr : r.seedOf? identifier = some seed) : s.seedOf? identifier = some seed := by
  induction h with
  | refl => exact hr
  | @allocate s h next ih =>
    rw [run_allocateBy]
    cases hs : s.seedOf? (identify next) with
    | some first => by_cases hfirst : first = next <;> simpa [hfirst] using ih
    | none =>
      obtain ⟨issued, hissued, rfl⟩ := Option.map_eq_some_iff.mp ih
      simp [seedOf?, List.find?_append, hissued]

theorem run_allocateBy_of_seedOf? (h : r.seedOf? (identify seed) = some seed) :
    (allocateBy identify seed).run r = (.ok (identify seed), r) := by
  simp [run_allocateBy, h]

theorem seedOf?_of_run_allocateBy {name : String}
    (h : (allocateBy identify seed).run r = (.ok name, s)) :
    s.seedOf? (identify seed) = some seed := by
  rw [run_allocateBy] at h
  cases hr : r.seedOf? (identify seed) with
  | none =>
    obtain rfl : ⟨r.issued ++ [(identify seed, seed)]⟩ = s := by simpa [hr] using congrArg (·.2) h
    have hnone := Option.map_eq_none_iff.mp hr
    simp [seedOf?, List.find?_append, hnone]
  | some first =>
    simp only [hr] at h
    split at h
    · next hfirst =>
      obtain rfl := congrArg (·.2) h
      rw [hr, hfirst]
    · exact nomatch congrArg (·.1) h

/-- A registry serves a seed and has it registered then, or it refuses it and stays as it was. -/
theorem run_allocateBy_cases (identify : String → String) (seed : String) (r : Registry) :
    (∃ s, (allocateBy identify seed).run r = (.ok (identify seed), s) ∧ r.Grows identify s ∧
      s.seedOf? (identify seed) = some seed) ∨
    ∃ e, (allocateBy identify seed).run r = (.error e, r) := by
  cases h : (allocateBy identify seed).run r with
  | mk answer s =>
    have hgrows : r.Grows identify ((allocateBy identify seed).run r).2 := .allocate .refl seed
    rw [h] at hgrows
    have hrun := (run_allocateBy identify seed r).symm.trans h
    split at hrun
    · split at hrun
      · obtain ⟨rfl, rfl⟩ := Prod.mk.inj hrun
        exact .inl ⟨_, rfl, hgrows, seedOf?_of_run_allocateBy h⟩
      · obtain ⟨rfl, rfl⟩ := Prod.mk.inj hrun
        exact .inr ⟨_, rfl⟩
    · obtain ⟨rfl, rfl⟩ := Prod.mk.inj hrun
      exact .inl ⟨_, rfl, hgrows, seedOf?_of_run_allocateBy h⟩

theorem run_allocateName (stem : NameStem) (seed : String) (i : Identification) (r : Registry) :
    (allocateName stem seed i).run r =
      (((allocateBy i.identify seed).run r).1.map fun _ => .generated stem seed i,
        ((allocateBy i.identify seed).run r).2) := by
  have hname : Name.ofString (stem.text ++ i.identify seed) = .ok (.generated stem seed i) :=
    Name.ofString_text (.generated stem seed i)
  rw [allocateName, run_bind, run_allocateAfterBy]
  rcases run_allocateBy_cases i.identify seed r with ⟨s, hrun, -, -⟩ | ⟨e, hrun⟩
  · rw [hrun]
    simp only [Except.map, hname]
    rfl
  · rw [hrun]
    rfl

theorem Request.grows (q : Request) (r : Registry) :
    r.Grows identify ((q.run identify).run r).2 := by
  cases q with
  | plain seed => exact .allocate .refl seed
  | after beginning seed =>
    rw [run, run_allocateAfterBy]
    exact .allocate .refl seed

end Growth

end BicepTemplates.Registry
