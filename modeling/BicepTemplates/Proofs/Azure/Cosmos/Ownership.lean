import BicepTemplates.Azure.Cosmos.DataAccess
import BicepTemplates.Proofs.Success

/-! # Who owns a database or a container

Databases and containers keep copies of what their owners prescribe. A database built on its own
agrees with its containers, and whatever is done to an account keeps every copy below it the same
as what it was copied from. The scope of a grant, read from the copies, is then the path from the
account.
-/

namespace BicepTemplates.Cosmos

structure Container.Owned (account database : Name) (serverless : Bool) (c : Container) : Prop where
  account_eq : c.account = account
  database_eq : c.database = database
  serverless_eq : c.serverless = serverless

structure Database.Owned (account : Name) (serverless : Bool) (d : Database) : Prop where
  account_eq : d.account = account
  serverless_eq : d.serverless = serverless
  containers_owned : ∀ c ∈ d.containers, c.Owned account d.header.name serverless

/-- All databases belong to the account. -/
def Account.Owns (a : Account) : Prop :=
  ∀ d ∈ a.databases, d.Owned a.header.name a.serverless

section Steps

/-- Only settings that are open to everyone differ. -/
structure Container.Configured (c c' : Container) : Prop where
  header_eq : c'.header = c.header
  account_eq : c'.account = c.account
  database_eq : c'.database = c.database
  serverless_eq : c'.serverless = c.serverless

structure Database.Configured (d d' : Database) : Prop where
  header_eq : d'.header = d.header
  account_eq : d'.account = d.account
  serverless_eq : d'.serverless = d.serverless
  containers_eq : d'.containers = d.containers

structure Account.Configured (a a' : Account) : Prop where
  header_eq : a'.header = a.header
  accountName_eq : a'.accountName = a.accountName
  serverless_eq : a'.serverless = a.serverless
  databases_eq : a'.databases = a.databases

/-- What can be done to a database wherever it is. The container that is added may have been made
for any database of any account. -/
inductive Database.Step (d : Database) : Database → Prop where
  | addContainer (c : Container) : Step d (d.addContainer c)
  | configure {d' : Database} (h : d.Configured d') : Step d d'
  | configureContainer {i : Nat} {c c' : Container} (hi : d.containers[i]? = some c)
      (h : c.Configured c') : Step d { d with containers := d.containers.set i c' }

/-- A database that can be added to an account. It may come out of another account, filled. -/
inductive Database.Built : Database → Prop where
  | new {a : Account} {name : String} {d : Database} (h : a.newDatabase name = .ok d) : Built d
  | step {d d' : Database} (hd : Built d) (h : d.Step d') : Built d'
  | setAccount {d : Database} (account : Name) (hd : Built d) : Built (d.setAccount account)
  | setServerless {d : Database} (serverless : Bool) (hd : Built d) :
      Built (d.setServerless serverless)

/-- What can be done to an account and to all it owns. -/
inductive Account.Step (a : Account) : Account → Prop where
  | addDatabase {d : Database} (hd : d.Built) : Step a (a.addDatabase d)
  | database {i : Nat} {d d' : Database} (hi : a.databases[i]? = some d) (h : d.Step d') :
      Step a { a with databases := a.databases.set i d' }
  | withSymbol {symbol : String} {a' : Account} (h : a.withSymbol symbol = .ok a') : Step a a'
  | setServerless (serverless : Bool) : Step a (a.setServerless serverless)
  | asStandard : Step a a.asStandard
  | withDevelopmentDefaults : Step a a.withDevelopmentDefaults
  | configure {a' : Account} (h : a.Configured a') : Step a a'

/-- An account that a run of steps has made from a new one. -/
inductive Account.Reachable : Account → Prop where
  | new (accountName : String) : Reachable (.new accountName)
  | step {a a' : Account} (ha : Reachable a) (h : a.Step a') : Reachable a'

end Steps

section Databases

variable {account : Name} {serverless : Bool} {d d' : Database}

theorem Container.Owned.configure {database : Name} {c c' : Container}
    (h : c.Owned account database serverless) (hc : c.Configured c') :
    c'.Owned account database serverless where
  account_eq := hc.account_eq.trans h.account_eq
  database_eq := hc.database_eq.trans h.database_eq
  serverless_eq := hc.serverless_eq.trans h.serverless_eq

theorem Database.Owned.setAccount (h : d.Owned account serverless) (name : Name) :
    (d.setAccount name).Owned name serverless where
  account_eq := rfl
  serverless_eq := h.serverless_eq
  containers_owned := by
    intro c hc
    obtain ⟨c, hcd, rfl⟩ := List.mem_map.mp hc
    have howned := h.containers_owned c hcd
    exact ⟨rfl, howned.database_eq, howned.serverless_eq⟩

theorem Database.Owned.setServerless (h : d.Owned account serverless) (b : Bool) :
    (d.setServerless b).Owned account b where
  account_eq := h.account_eq
  serverless_eq := rfl
  containers_owned := by
    intro c hc
    obtain ⟨c, hcd, rfl⟩ := List.mem_map.mp hc
    have howned := h.containers_owned c hcd
    exact ⟨howned.account_eq, howned.database_eq, rfl⟩

theorem Database.Owned.addContainer (h : d.Owned account serverless) (c : Container) :
    (d.addContainer c).Owned account serverless where
  account_eq := h.account_eq
  serverless_eq := h.serverless_eq
  containers_owned := by
    intro c' hc'
    rcases List.mem_append.mp hc' with hold | hnew
    · exact h.containers_owned c' hold
    · obtain rfl := List.mem_singleton.mp hnew
      exact ⟨h.account_eq, rfl, h.serverless_eq⟩

theorem Database.Owned.step (ho : d.Owned account serverless) (h : d.Step d') :
    d'.Owned account serverless := by
  cases h with
  | addContainer c => exact ho.addContainer c
  | configure h =>
    refine ⟨h.account_eq.trans ho.account_eq, h.serverless_eq.trans ho.serverless_eq, ?_⟩
    rw [h.containers_eq, h.header_eq]
    exact ho.containers_owned
  | configureContainer hi h =>
    refine ⟨ho.account_eq, ho.serverless_eq, fun c hc => ?_⟩
    rcases List.mem_or_eq_of_mem_set hc with hold | rfl
    · exact ho.containers_owned c hold
    · exact (ho.containers_owned _ (List.mem_of_getElem? hi)).configure h

theorem Database.Built.owned (h : d.Built) : d.Owned d.account d.serverless := by
  induction h with
  | new h =>
    obtain ⟨symbol, -, hd⟩ := bind_eq_ok_iff.mp h
    obtain rfl := Except.ok.inj hd
    exact ⟨rfl, rfl, fun c hc => absurd hc List.not_mem_nil⟩
  | step hd h ih =>
    have ho := ih.step h
    rwa [← ho.account_eq, ← ho.serverless_eq] at ho
  | setAccount name hd ih => exact ih.setAccount name
  | setServerless b hd ih => exact ih.setServerless b

end Databases

namespace Account

variable {a a' : Account}

theorem Owns.addDatabase (h : a.Owns) {d : Database} (hd : d.Built) : (a.addDatabase d).Owns := by
  intro d' hd'
  rcases List.mem_append.mp hd' with hold | hnew
  · exact h d' hold
  · obtain rfl := List.mem_singleton.mp hnew
    exact (hd.owned.setAccount a.header.name).setServerless a.serverless

theorem Owns.setServerless (h : a.Owns) (b : Bool) : (a.setServerless b).Owns := by
  intro d hd
  obtain ⟨d, hda, rfl⟩ := List.mem_map.mp hd
  exact (h d hda).setServerless b

theorem Owns.withSymbol (h : a.Owns) {symbol : String} (hs : a.withSymbol symbol = .ok a') :
    a'.Owns := by
  obtain ⟨name, -, ha⟩ := bind_eq_ok_iff.mp hs
  obtain rfl := Except.ok.inj ha
  intro d hd
  obtain ⟨d, hda, rfl⟩ := List.mem_map.mp hd
  exact (h d hda).setAccount name

theorem Owns.step (ho : a.Owns) (h : a.Step a') : a'.Owns := by
  cases h with
  | addDatabase hd => exact ho.addDatabase hd
  | database hi h =>
    intro d hd
    rcases List.mem_or_eq_of_mem_set hd with hold | rfl
    · exact ho d hold
    · exact (ho _ (List.mem_of_getElem? hi)).step h
  | withSymbol h => exact ho.withSymbol h
  | setServerless b => exact ho.setServerless b
  | asStandard => exact ho.setServerless false
  | withDevelopmentDefaults => exact ho.setServerless true
  | configure h =>
    intro d hd
    rw [h.databases_eq] at hd
    rw [h.header_eq, h.serverless_eq]
    exact ho d hd

theorem Reachable.owns (h : a.Reachable) : a.Owns := by
  induction h with
  | new accountName => exact fun d hd => absurd hd List.not_mem_nil
  | step ha h ih => exact ih.step h

/-- After any run of steps, every copy below an account is the same as what it was copied from,
and scopes are read off the copies correctly. -/
theorem Reachable.copies_agree (h : a.Reachable) : ∀ d ∈ a.databases,
    d.account = a.header.name ∧ d.serverless = a.serverless ∧
      DataScope.ofAncestry [a.header.name, d.header.name] = .ok (.ofDatabase d) ∧
      ∀ c ∈ d.containers, c.account = a.header.name ∧ c.database = d.header.name ∧
        c.serverless = a.serverless ∧
        DataScope.ofAncestry [a.header.name, d.header.name, c.header.name] =
          .ok (.ofContainer c) := by
  intro d hd
  have hown := h.owns d hd
  refine ⟨hown.account_eq, hown.serverless_eq, ?database, fun c hc => ?_⟩
  case database => rw [DataScope.ofAncestry, DataScope.ofDatabase, hown.account_eq]
  have hcontainer := hown.containers_owned c hc
  refine ⟨hcontainer.account_eq, hcontainer.database_eq, hcontainer.serverless_eq, ?_⟩
  rw [DataScope.ofAncestry, DataScope.ofContainer, hcontainer.account_eq, hcontainer.database_eq]

/-- A database that another account made goes along with the account it is added to, and takes
its container with it. -/
theorem Reachable.copies_agree_of_moved :
    ∃ other d c a, (Account.new "logs").withSymbol "logs" = .ok other ∧
      other.newDatabase "events" = .ok d ∧ d.newContainer "first" = .ok c ∧
      ((Account.new "main").addDatabase (d.addContainer c)).withSymbol "main" = .ok a ∧
      a.asStandard.Reachable ∧
      ∃ d ∈ a.asStandard.databases, ∃ c ∈ d.containers, c.account = a.header.name ∧
        c.serverless = false ∧
        DataScope.ofAncestry [a.header.name, d.header.name, c.header.name] =
          .ok (.ofContainer c) := by
  have hrun : ∀ {other a : Account} {d : Database} {c : Container}, other.newDatabase "events" = .ok d →
      ((Account.new "main").addDatabase (d.addContainer c)).withSymbol "main" = .ok a →
      a.asStandard.Reachable := by
    intro other a d c hd ha
    have hbuilt : (d.addContainer c).Built := (Database.Built.new hd).step (.addContainer c)
    have hadded := (Reachable.new "main").step (.addDatabase hbuilt)
    exact (hadded.step (.withSymbol ha)).step .asStandard
  refine ⟨_, _, _, _, rfl, rfl, rfl, rfl, hrun rfl rfl, _, List.mem_cons_self, _,
    List.mem_cons_self, ?_⟩
  obtain ⟨-, -, -, hcontainers⟩ := (hrun rfl rfl).copies_agree _ List.mem_cons_self
  obtain ⟨haccount, -, hserverless, hscope⟩ := hcontainers _ List.mem_cons_self
  exact ⟨haccount, hserverless, hscope⟩

end Account

end BicepTemplates.Cosmos
