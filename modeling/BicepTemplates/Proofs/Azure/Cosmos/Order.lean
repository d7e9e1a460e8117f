import BicepTemplates.Proofs.Azure.Cosmos.Ownership
import Mathlib.Data.List.Induction

/-! # The order in which an account is built

An account gets its symbol, its serverless setting, its databases and their containers one after
the other. What is added takes over what the account prescribes, and every later change reaches it
as well, so all settings might as well be made before anything is added. Of several symbols or
settings only the last one counts, and nothing is brought along from an owner before.
-/

namespace BicepTemplates.Cosmos

/-- A database goes behind the others, a container into the database at a position. -/
inductive Account.Addition where
  | database (d : Database)
  | container (position : Nat) (c : Container)

/-- What is done to an account while it is built. -/
inductive Account.Operation where
  | setServerless (serverless : Bool)
  | asStandard
  | withSymbol (symbol : Name)
  | add (x : Addition)

namespace Account

def Addition.apply (a : Account) : Addition → Account
  | database d => a.addDatabase d
  | container position c =>
    { a with databases := a.databases.modify position (Database.addContainer c) }

namespace Operation

def run (a : Account) : Operation → Except NameError Account
  | setServerless serverless => return a.setServerless serverless
  | asStandard => return a.asStandard
  | withSymbol symbol => a.withSymbol symbol.text
  | add x => return x.apply a

def symbol? : Operation → Option Name
  | withSymbol symbol => some symbol
  | _ => none

def serverless? : Operation → Option Bool
  | setServerless serverless => some serverless
  | asStandard => some false
  | _ => none

def addition? : Operation → Option Addition
  | add x => some x
  | _ => none

def additions (ops : List Operation) : List Addition :=
  ops.filterMap addition?

def lastSymbol? (ops : List Operation) : Option Name :=
  (ops.filterMap symbol?).getLast?

def lastServerless? (ops : List Operation) : Option Bool :=
  (ops.filterMap serverless?).getLast?

/-- The last symbol and the last serverless setting, and after them the additions. -/
def settingsFirst (ops : List Operation) : List Operation :=
  ((lastSymbol? ops).map withSymbol).toList ++ ((lastServerless? ops).map setServerless).toList ++
    (additions ops).map add

end Operation

def build (a : Account) (ops : List Operation) : Except NameError Account :=
  ops.foldlM Operation.run a

end Account

section Alike

/-- Containers that differ at most in the account and the setting they took over. -/
def Container.Alike (c c' : Container) : Prop :=
  ∃ account serverless, c' = { c with account, serverless }

structure Database.Alike (d d' : Database) : Prop where
  header_eq : d'.header = d.header
  throughput_eq : d'.throughput = d.throughput
  containers : List.Forall₂ Container.Alike d.containers d'.containers

inductive Account.Operation.Alike : Operation → Operation → Prop where
  | same (op : Operation) : Alike op op
  | database {d d' : Database} (h : d.Alike d') : Alike (.add (.database d)) (.add (.database d'))
  | container (position : Nat) (c : Container) (account database : Name) (serverless : Bool) :
      Alike (.add (.container position c))
        (.add (.container position (c.adopt account database serverless)))

end Alike

section Databases

variable (d : Database) (c : Container) (m n : Name) (b b' : Bool)

@[simp] theorem Database.setAccount_setAccount :
    (d.setAccount m).setAccount n = d.setAccount n := by
  simp [setAccount]

@[simp] theorem Database.setServerless_setServerless :
    (d.setServerless b).setServerless b' = d.setServerless b' := by
  simp [setServerless]

theorem Database.setServerless_setAccount :
    (d.setServerless b).setAccount n = (d.setAccount n).setServerless b := by
  simp [setAccount, setServerless]

theorem Database.setAccount_addContainer :
    (d.addContainer c).setAccount n = (d.setAccount n).addContainer c := by
  simp [setAccount, addContainer, Container.adopt]

theorem Database.setServerless_addContainer :
    (d.addContainer c).setServerless b = (d.setServerless b).addContainer c := by
  simp [setServerless, addContainer, Container.adopt]

end Databases

theorem Container.Alike.adopted_eq {cs cs' : List Container}
    (h : List.Forall₂ Container.Alike cs cs') (n : Name) (b : Bool) :
    cs'.map (fun c => { c with account := n, serverless := b : Container }) =
      cs.map fun c => { c with account := n, serverless := b } := by
  induction h with
  | nil => rfl
  | cons hc hcs ih =>
    obtain ⟨account, serverless, rfl⟩ := hc
    rw [List.map_cons, List.map_cons, ih]

theorem Database.Alike.adopted_eq {d d' : Database} (h : d.Alike d') (n : Name) (b : Bool) :
    (d'.setAccount n).setServerless b = (d.setAccount n).setServerless b := by
  have hcontainers := Container.Alike.adopted_eq h.containers n b
  obtain ⟨header, account, serverless, cs, throughput⟩ := d
  obtain ⟨header', account', serverless', cs', throughput'⟩ := d'
  obtain ⟨rfl, rfl, -⟩ := h
  simpa [setAccount, setServerless, Function.comp_def] using hcontainers

theorem map_modify_of_comm {α β : Type} {f : α → α} {f' : β → β} {g : α → β}
    (h : ∀ x, g (f x) = f' (g x)) (xs : List α) (i : Nat) :
    (xs.modify i f).map g = (xs.map g).modify i f' := by
  refine List.ext_getElem? fun j => ?_
  rw [List.getElem?_map, List.getElem?_modify, List.getElem?_modify, List.getElem?_map]
  cases xs[j]? with
  | none => simp
  | some x => split <;> simp [h]

namespace Account

section Settings

variable (a : Account) (m n : Name) (b b' : Bool) (x : Addition) (xs : List Addition)

/-- The account under a symbol that is known to be a name. -/
def named (symbol : Name) (a : Account) : Account :=
  { a with
    header := { a.header with name := symbol }
    databases := a.databases.map (Database.setAccount symbol) }

theorem withSymbol_text : a.withSymbol n.text = .ok (a.named n) := by
  rw [withSymbol, Name.ofString_text]
  rfl

@[simp] theorem named_named : (a.named m).named n = a.named n := by
  simp [named]

@[simp] theorem setServerless_setServerless :
    (a.setServerless b).setServerless b' = a.setServerless b' := by
  simp [setServerless]

theorem setServerless_named : (a.setServerless b).named n = (a.named n).setServerless b := by
  simp [named, setServerless, Database.setServerless_setAccount]

theorem apply_named : x.apply (a.named n) = (x.apply a).named n := by
  cases x with
  | database d =>
    simp [Addition.apply, addDatabase, named, Database.setServerless_setAccount]
  | container i c =>
    have hcomm := map_modify_of_comm (fun d => d.setAccount_addContainer c n) a.databases i
    rw [Addition.apply, Addition.apply, named, named, hcomm]

theorem apply_setServerless : x.apply (a.setServerless b) = (x.apply a).setServerless b := by
  cases x with
  | database d => simp [Addition.apply, addDatabase, setServerless]
  | container i c =>
    have hcomm := map_modify_of_comm (fun d => d.setServerless_addContainer c b) a.databases i
    rw [Addition.apply, Addition.apply, setServerless, setServerless, hcomm]

def settled (a : Account) (symbol : Option Name) (serverless : Option Bool) : Account :=
  let a := match symbol with
    | some n => a.named n
    | none => a
  match serverless with
  | some b => a.setServerless b
  | none => a

theorem named_settled (symbol : Option Name) (serverless : Option Bool) :
    (a.settled symbol serverless).named n = a.settled (some n) serverless := by
  cases symbol <;> cases serverless <;> simp [settled, setServerless_named]

theorem setServerless_settled (symbol : Option Name) (serverless : Option Bool) :
    (a.settled symbol serverless).setServerless b = a.settled symbol (some b) := by
  cases symbol <;> cases serverless <;> simp [settled]

theorem foldl_apply_named :
    xs.foldl Addition.apply (a.named n) = (xs.foldl Addition.apply a).named n :=
  List.foldl_hom (named n) (fun a x => apply_named a n x)

theorem foldl_apply_setServerless :
    xs.foldl Addition.apply (a.setServerless b) = (xs.foldl Addition.apply a).setServerless b :=
  List.foldl_hom (setServerless b) (fun a x => apply_setServerless a b x)

end Settings

namespace Operation

variable {a : Account} {op op' : Operation} {ops ops' : List Operation}

def apply (a : Account) : Operation → Account
  | setServerless serverless => a.setServerless serverless
  | asStandard => a.setServerless false
  | withSymbol symbol => a.named symbol
  | add x => x.apply a

theorem run_eq_ok (a : Account) (op : Operation) : op.run a = .ok (op.apply a) := by
  cases op with
  | withSymbol symbol => exact a.withSymbol_text symbol
  | _ => rfl

theorem Alike.apply_eq (h : op.Alike op') : op'.apply a = op.apply a := by
  cases h with
  | same => rfl
  | database hd => simp [apply, Addition.apply, addDatabase, hd.adopted_eq]
  | container => rfl

theorem foldl_apply_add (xs : List Addition) :
    (xs.map add).foldl apply a = xs.foldl Addition.apply a := by
  rw [List.foldl_map]
  rfl

theorem foldl_settingsFirst (ops : List Operation) :
    (settingsFirst ops).foldl apply a =
      (additions ops).foldl Addition.apply (a.settled (lastSymbol? ops) (lastServerless? ops)) := by
  rw [settingsFirst, List.foldl_append, List.foldl_append, foldl_apply_add]
  cases lastSymbol? ops <;> cases lastServerless? ops <;> rfl

theorem lastSymbol?_concat : lastSymbol? (ops ++ [op]) = op.symbol?.or (lastSymbol? ops) := by
  cases h : op.symbol? <;> simp [lastSymbol?, h]

theorem lastServerless?_concat :
    lastServerless? (ops ++ [op]) = op.serverless?.or (lastServerless? ops) := by
  cases h : op.serverless? <;> simp [lastServerless?, h]

theorem additions_concat : additions (ops ++ [op]) = additions ops ++ op.addition?.toList := by
  cases h : op.addition? <;> simp [additions, h]

theorem foldl_apply_eq (ops : List Operation) :
    ops.foldl apply a = (settingsFirst ops).foldl apply a := by
  -- by induction from the end: a setting moves in front of the additions before it and replaces the
  -- one that counted so far
  induction ops using List.reverseRecOn with
  | nil => rfl
  | append_singleton ops op ih =>
    rw [foldl_settingsFirst] at ih ⊢
    rw [List.foldl_append, List.foldl_cons, List.foldl_nil, ih, additions_concat,
      lastSymbol?_concat, lastServerless?_concat, List.foldl_append]
    cases op with
    | setServerless b =>
      rw [apply, ← foldl_apply_setServerless, setServerless_settled]
      rfl
    | asStandard =>
      rw [apply, ← foldl_apply_setServerless, setServerless_settled]
      rfl
    | withSymbol n =>
      rw [apply, ← foldl_apply_named, named_settled]
      rfl
    | add x => rfl

theorem foldl_apply_alike (h : List.Forall₂ Alike ops ops') :
    ops'.foldl apply a = ops.foldl apply a := by
  induction h generalizing a with
  | nil => rfl
  | cons hop hops ih => rw [List.foldl_cons, List.foldl_cons, hop.apply_eq, ih]

end Operation

theorem build_eq_ok (a : Account) (ops : List Operation) :
    a.build ops = .ok (ops.foldl Operation.apply a) := by
  induction ops generalizing a with
  | nil => rfl
  | cons op ops ih =>
    rw [build, List.foldlM_cons, Operation.run_eq_ok]
    exact ih _

/-- An account comes out the same if its settings are made first, each only as it was made last, and
whatever the things that are added took over from other owners. -/
theorem build_settingsFirst (a : Account) (ops : List Operation) : ∃ a',
    a.build ops = .ok a' ∧ a.build (Operation.settingsFirst ops) = .ok a' ∧
      ∀ ops', List.Forall₂ Operation.Alike ops ops' → a.build ops' = .ok a' := by
  refine ⟨ops.foldl Operation.apply a, a.build_eq_ok ops, ?settings, fun ops' h => ?alike⟩
  case settings => rw [build_eq_ok, ← Operation.foldl_apply_eq]
  case alike => rw [build_eq_ok, Operation.foldl_apply_alike h]

/-- A filled database of the account `logs` that joins an account before that one is renamed and
switched gives the same account as one made for it after both. -/
theorem build_settingsFirst_of_moved :
    let logs : Name := ⟨"logs", by decide⟩
    let stock : Name := ⟨"stock", by decide⟩
    let events : Name := ⟨"events", by decide⟩
    let first : Container := ⟨⟨⟨"first", by decide⟩, Container.type, false⟩, logs, events, true,
      none, {}, none, none, [], none, []⟩
    let moved : Database := ⟨⟨events, Database.type, false⟩, logs, true, [first], {}⟩
    let made : Database := { moved with
      account := stock, serverless := false
      containers := [{ first with account := stock, serverless := false }] }
    ∃ a, (new "stock").build [.add (.database moved), .asStandard, .add (.container 0 first),
        .withSymbol stock] = .ok a ∧
      (new "stock").build [.withSymbol stock, .setServerless false, .add (.database made),
        .add (.container 0 (first.adopt stock events false))] = .ok a := by
  intro logs stock events first moved made
  obtain ⟨a, ha, -, halike⟩ := build_settingsFirst (new "stock")
    [.add (.database moved), .asStandard, .add (.container 0 first), .withSymbol stock]
  have hmade := halike [.add (.database made), .asStandard,
    .add (.container 0 (first.adopt stock events false)), .withSymbol stock]
    (.cons (.database ⟨rfl, rfl, .cons ⟨stock, false, rfl⟩ .nil⟩)
      (.cons (.same _) (.cons (.container 0 first stock events false) (.cons (.same _) .nil))))
  obtain ⟨a', ha', hfirst, -⟩ := build_settingsFirst (new "stock") [.add (.database made),
    .asStandard, .add (.container 0 (first.adopt stock events false)), .withSymbol stock]
  obtain rfl := Except.ok.inj (hmade.symm.trans ha')
  exact ⟨a, ha, hfirst⟩

end Account

end BicepTemplates.Cosmos
