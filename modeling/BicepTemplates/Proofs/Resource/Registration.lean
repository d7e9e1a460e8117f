import BicepTemplates.Proofs.Azure.RoleAssignment
import BicepTemplates.Resource.Kinds

/-! # Registered and unregistered symbols

References, identities and role assignments go under symbols that are generated from seeds. They
may all share one registry, with each other and with plain requests, in any order. Whichever way
seeds are identified, a resource whose symbol is registered is the same as one that is made without
a registry, so templates that are rendered apart agree on its symbol. It is refused exactly if its
identifier was given out for another seed before, and then the registry stays as it was.
-/

namespace BicepTemplates

/-- What a resource with a generated symbol is made of. -/
inductive Generated where
  | existing (type : String) (reference : Expr)
  | identity (publicName : String)
  | roleAssignment (a : Assignment)

namespace Generated

def stem : Generated → NameStem
  | existing .. => ExistingResource.stem
  | identity _ => ManagedIdentity.stem
  | roleAssignment _ => RoleAssignment.stem

def seed : Generated → String
  | existing _ reference => reference.seed
  | identity publicName => publicName
  | roleAssignment a => a.seed

/-- The resource, made without a registry. -/
def unregistered (i : Identification) : Generated → Resource
  | existing type reference => .existing (.new type reference i)
  | identity publicName => .identity (.new publicName i)
  | roleAssignment a => .roleAssignment (.new a i)

/-- The resource, with its symbol registered. -/
def register (i : Identification) : Generated → Allocation Resource
  | existing type reference => return .existing (← ExistingResource.allocate type reference i)
  | identity publicName => return .identity (← ManagedIdentity.allocate publicName i)
  | roleAssignment a => return .roleAssignment (← RoleAssignment.allocate a i)

end Generated

namespace Registry

/-- A call on a registry, for an identifier or for a resource. -/
inductive Call where
  | request (q : Request)
  | register (g : Generated)

namespace Call

def seed : Call → String
  | request q => q.seed
  | register g => g.seed

def run (i : Identification) : Call → Allocation Unit
  | request q => do let _ ← q.run i.identify
  | register g => do let _ ← g.register i

/-- What a registry that was empty at first holds after calls. -/
def registry (i : Identification) (calls : List Call) : Registry :=
  calls.foldl (fun r c => ((c.run i).run r).2) {}

/-- One of the calls has succeeded with the seed. -/
def Served (i : Identification) (calls : List Call) (seed : String) : Prop :=
  ∃ before c after, calls = before ++ c :: after ∧
    ((c.run i).run (registry i before)).1 = .ok () ∧ c.seed = seed

end Call

end Registry

section Runs

variable {r : Registry} {i : Identification}

theorem ExistingResource.run_allocate (type : String) (reference : Expr) (i : Identification)
    (r : Registry) : (allocate type reference i).run r =
      (((Registry.allocateBy i.identify reference.seed).run r).1.map fun _ => new type reference i,
        ((Registry.allocateBy i.identify reference.seed).run r).2) :=
  run_return_of_run_eq _ (Registry.run_allocateName stem reference.seed i r)

theorem ExistingResource.eq_of_run_allocate {type : String} {reference : Expr}
    {x : ExistingResource} {s : Registry} (h : (allocate type reference i).run r = (.ok x, s)) :
    x = new type reference i := by
  rw [run_allocate] at h
  exact eq_of_map_eq_ok (Prod.mk.inj h).1

theorem ManagedIdentity.run_allocate (publicName : String) (i : Identification) (r : Registry) :
    (allocate publicName i).run r =
      (((Registry.allocateBy i.identify publicName).run r).1.map fun _ => new publicName i,
        ((Registry.allocateBy i.identify publicName).run r).2) :=
  run_return_of_run_eq _ (Registry.run_allocateName stem publicName i r)

theorem ManagedIdentity.eq_of_run_allocate {publicName : String} {x : ManagedIdentity}
    {s : Registry} (h : (allocate publicName i).run r = (.ok x, s)) : x = new publicName i := by
  rw [run_allocate] at h
  exact eq_of_map_eq_ok (Prod.mk.inj h).1

theorem Generated.run_register (g : Generated) (i : Identification) (r : Registry) :
    (g.register i).run r =
      (((Registry.allocateBy i.identify g.seed).run r).1.map fun _ => g.unregistered i,
        ((Registry.allocateBy i.identify g.seed).run r).2) := by
  cases g with
  | existing type reference =>
    exact run_return_of_run_eq _ (ExistingResource.run_allocate type reference i r)
  | identity publicName =>
    exact run_return_of_run_eq _ (ManagedIdentity.run_allocate publicName i r)
  | roleAssignment a => exact run_return_of_run_eq _ (RoleAssignment.run_allocate a i r)

theorem Generated.text_unregistered (g : Generated) (i : Identification) :
    (g.unregistered i).name.text = g.stem.text ++ i.identify g.seed := by
  cases g <;> rfl

end Runs

namespace Registry.Call

variable {i : Identification} {calls : List Call} {seed : String}

theorem run_run (c : Call) (i : Identification) (r : Registry) : (c.run i).run r =
    (((allocateBy i.identify c.seed).run r).1.map fun _ => (),
      ((allocateBy i.identify c.seed).run r).2) := by
  cases c with
  | request q =>
    cases q with
    | plain seed => exact run_return (allocateBy i.identify seed) _ r
    | after beginning seed =>
      exact run_return_of_run_eq _ (run_allocateAfterBy i.identify beginning seed r)
  | register g => exact run_return_of_run_eq _ (g.run_register i r)

theorem run_eq_ok_iff {c : Call} {r : Registry} : ((c.run i).run r).1 = .ok () ↔
    ∃ name, ((allocateBy i.identify c.seed).run r).1 = .ok name := by
  rw [run_run]
  cases ((allocateBy i.identify c.seed).run r).1 <;> simp [Except.map]

/-- The registry is the one of the history in which the same seeds are asked for. -/
theorem registry_eq (i : Identification) (calls : List Call) : registry i calls =
    (History.ofRequests i.identify (calls.map fun c => .plain c.seed)).registry := by
  have hfoldl : ∀ h : History, calls.foldl (fun r c => ((c.run i).run r).2) h.registry =
      ((calls.map fun c => .plain c.seed).foldl (History.serve i.identify) h).registry := by
    induction calls with
    | nil => exact fun _ => rfl
    | cons c calls ih =>
      intro h
      rw [List.foldl_cons, List.map_cons, List.foldl_cons, ← ih, run_run]
      rfl
  exact hfoldl {}

theorem served_iff : Served i calls seed ↔
    seed ∈ (History.ofRequests i.identify (calls.map fun c => .plain c.seed)).served := by
  rw [History.ofRequests, History.mem_served_foldl_iff]
  constructor
  · rintro ⟨before, c, after, rfl, hrun, rfl⟩
    refine .inr ⟨before.map fun c => .plain c.seed, .plain c.seed, after.map fun c => .plain c.seed,
      by simp, ?_, rfl⟩
    rw [registry_eq] at hrun
    exact run_eq_ok_iff.mp hrun
  · rintro (hnone | ⟨_, _, _, hrequests, hanswer, rfl⟩)
    · exact absurd hnone List.not_mem_nil
    · obtain ⟨before, rest, rfl, rfl, hrest⟩ := List.map_eq_append_iff.mp hrequests
      obtain ⟨c, after, rfl, rfl, rfl⟩ := List.map_eq_cons_iff.mp hrest
      refine ⟨before, c, after, rfl, run_eq_ok_iff.mpr ?_, rfl⟩
      rw [registry_eq]
      exact hanswer

theorem registry_singleton (i : Identification) (c : Call) :
    registry i [c] = ⟨[(i.identify c.seed, c.seed)]⟩ := by
  rw [registry, List.foldl_cons, List.foldl_nil, run_run]
  rfl

theorem served_singleton (i : Identification) (c : Call) : Served i [c] c.seed :=
  ⟨[], c, [], rfl, run_eq_ok_iff.mpr ⟨i.identify c.seed, rfl⟩, rfl⟩

end Registry.Call

namespace Generated

open Registry

variable {i : Identification} {g : Generated} {r s : Registry} {x : Resource} {e : Error}

theorem eq_of_run_register (h : (g.register i).run r = (.ok x, s)) : x = g.unregistered i ∧
    (allocateAfterBy i.identify g.stem.text g.seed).run r = (.ok x.name.text, s) := by
  rw [run_register] at h
  obtain ⟨hx, rfl⟩ := Prod.mk.inj h
  obtain rfl := eq_of_map_eq_ok hx
  refine ⟨rfl, ?_⟩
  rcases run_allocateBy_cases i.identify g.seed r with ⟨s, hrun, -⟩ | ⟨e, hrun⟩
  · rw [run_allocateAfterBy, hrun, text_unregistered]
    rfl
  · rw [hrun] at hx
    cases hx

theorem run_register_eq_error_iff :
    ((g.register i).run r).1 = .error e ↔
      ((allocateBy i.identify g.seed).run r).1 = .error e := by
  rw [run_register]
  cases ((allocateBy i.identify g.seed).run r).1 <;> simp [Except.map]

theorem eq_of_run_register_error (h : ((g.register i).run r).1 = .error e) :
    ((g.register i).run r).2 = r := by
  rw [run_register_eq_error_iff] at h
  rw [run_register]
  rcases run_allocateBy_cases i.identify g.seed r with ⟨s, hrun, -⟩ | ⟨e, hrun⟩
  · rw [hrun] at h
    cases h
  · rw [hrun]

/-- After any calls on a registry, for resources of whatever kind or for plain identifiers, a
resource that is registered is the same as without a registry, and its symbol is the name that the
registry gives out. It is refused exactly if a call with another seed of the same identifier has
succeeded before, and a refusal changes nothing. -/
theorem register_exact (i : Identification) (calls : List Call) (g : Generated) :
    let r := Call.registry i calls
    (∀ x s, (g.register i).run r = (.ok x, s) → x = g.unregistered i ∧
      (allocateAfterBy i.identify g.stem.text g.seed).run r = (.ok x.name.text, s)) ∧
    (∀ e, ((g.register i).run r).1 = .error e → ((g.register i).run r).2 = r) ∧
    ∀ e, ((g.register i).run r).1 = .error e ↔ ∃ first, Call.Served i calls first ∧
      first ≠ g.seed ∧ i.identify first = i.identify g.seed ∧
        e = .identifierCollision (i.identify g.seed) first g.seed := by
  intro r
  refine ⟨fun _ _ => eq_of_run_register, fun _ => eq_of_run_register_error, fun e => ?_⟩
  have hlawful : (History.ofRequests i.identify (calls.map fun c => .plain c.seed)).Lawful
      i.identify := History.lawful_ofRequests _
  have hanswer : ((g.register i).run r).1 = .error e ↔
      (History.ofRequests i.identify (calls.map fun c => .plain c.seed)).answer i.identify
        (.plain g.seed) = .error e := by
    have hr : r = (History.ofRequests i.identify (calls.map fun c => .plain c.seed)).registry :=
      Call.registry_eq i calls
    rw [run_register_eq_error_iff, hr]
    rfl
  simp only [hanswer, hlawful.answer_eq_error_iff, Call.served_iff, Request.seed]

/-- The seed of an identity stands in the way of a reference, but not of one with the same seed. -/
theorem register_exact_collision :
    let i : Identification := .digest
    let calls : List Call := [.register (.identity "vault166")]
    let same : Generated := .existing "Microsoft.Maps/accounts@2023-06-01" (.text "vault166")
    let other : Generated := .existing "Microsoft.Maps/accounts@2023-06-01" (.text "maps952")
    (same.register i).run (Call.registry i calls) =
        (.ok (same.unregistered i), Call.registry i calls) ∧
      Call.Served i calls "vault166" ∧ "vault166" ≠ other.seed ∧
      identifier "vault166" = identifier other.seed ∧
      (other.register i).run (Call.registry i calls) =
        (.error (.identifierCollision (identifier other.seed) "vault166" other.seed),
          Call.registry i calls) := by
  intro i calls same other
  have hserved : Call.Served i calls "vault166" := Call.served_singleton i _
  have hne : "vault166" ≠ other.seed := by decide
  have hcollide : identifier "vault166" = identifier other.seed := identifier_vault166
  refine ⟨?same, hserved, hne, hcollide, ?other⟩
  case same =>
    have hregistered :
        (Call.registry i calls).seedOf? (i.identify same.seed) = some same.seed := by
      rw [Call.registry_singleton]
      simp [Registry.seedOf?, same, seed, Expr.seed, Call.seed]
    rw [run_register, run_allocateBy_of_seedOf? hregistered, Except.map]
  case other =>
    obtain ⟨-, hkept, hrefused⟩ := register_exact i calls other
    have herror : ((other.register i).run (Call.registry i calls)).1 =
        .error (.identifierCollision (identifier other.seed) "vault166" other.seed) :=
      (hrefused _).mpr ⟨"vault166", hserved, hne, hcollide, rfl⟩
    rw [← Prod.eta ((other.register i).run (Call.registry i calls)), herror, hkept _ herror]

end Generated

end BicepTemplates
