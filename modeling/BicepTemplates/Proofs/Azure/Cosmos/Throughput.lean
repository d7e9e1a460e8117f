import BicepTemplates.Proofs.Azure.Cosmos.Bodies
import BicepTemplates.Proofs.Azure.Cosmos.Ownership
import BicepTemplates.Proofs.Document.Blocks

/-! # Throughput in a rendered document

Databases and containers are checked against the serverless setting they have taken over, which is
that of their account after any run of steps. So if a document renders, its blocks show options for
throughput only below an account that is not serverless, and there exactly the one that is set.
-/

namespace BicepTemplates.Cosmos

namespace Throughput

/-- Where the options for throughput stand in a block, and what they are. -/
inductive ShownAt (serverless : Bool) : Throughput → List Property.Place → Prop where
  | unset : ShownAt serverless ⟨none, none⟩ []
  | manual (h : serverless = false) (amount : Int) : ShownAt serverless ⟨some amount, none⟩
      [⟨["properties"], .bag "options" [.int "throughput" amount]⟩]
  | autoscale (h : serverless = false) (max : Int) : ShownAt serverless ⟨none, some max⟩
      [⟨["properties"], .bag "options" [.bag "autoscaleSettings" [.int "maxThroughput" max]]⟩]

theorem shownAt_of_rules {t : Throughput} {kind : String} {serverless : Bool}
    (h : ∀ r ∈ t.rules kind serverless, r = none) : t.ShownAt serverless
      (t.options?.toList.map fun p => ⟨["properties"], p⟩) := by
  obtain ⟨manual, autoscale⟩ := t
  cases manual <;> cases autoscale <;> cases serverless
  case none.none.false => exact .unset
  case none.none.true => exact .unset
  case none.some.false => exact .autoscale rfl _
  case some.none.false => exact .manual rfl _
  all_goals simp [rules, Rule.forbid] at h

end Throughput

theorem Database.shownAt_of_validate {d : Database} {left : List Warning} {body : List Property}
    (hv : (Resource.database d).validate = .ok left) (hb : (Resource.database d).body = .ok body) :
    d.throughput.ShownAt d.serverless (placesIn "options" body) := by
  obtain ⟨_, hcheck, -⟩ := bind_eq_ok_iff.mp hv
  have hshown := Throughput.shownAt_of_rules (Rule.check_eq_ok_iff.mp hcheck)
  rwa [← Database.options_of_body hb] at hshown

theorem Container.shownAt_of_validate {c : Container} {left : List Warning}
    {body : List Property} (hv : (Resource.container c).validate = .ok left)
    (hb : (Resource.container c).body = .ok body) :
    c.throughput.ShownAt c.serverless (placesIn "options" body) := by
  obtain ⟨_, hcheck, -⟩ := bind_eq_ok_iff.mp hv
  have hrules := Rule.check_eq_ok_iff.mp hcheck
  have hshown := Throughput.shownAt_of_rules fun r hr => hrules r (List.mem_cons_of_mem _ hr)
  rwa [← Container.options_of_body hb] at hshown

namespace Account

variable {a : Account} {doc : Document} {text : String} {warnings : List Warning}

/-- In a document that renders, an account shows whether it is serverless, and what it owns shows
options for throughput only if it is not: the amount or the maximum, whichever is set. -/
theorem Reachable.throughput_of_render (ha : a.Reachable) (hdoc : .account a ∈ doc.resources)
    (h : doc.render = .ok (text, warnings)) : ∃ shown, doc.Blocks text shown ∧
      (∃ s ∈ shown, s.header = a.header ∧ placesIn "capabilities" s.body =
        if a.serverless then [⟨["properties"], .array "capabilities" [.text "EnableServerless"]⟩]
        else []) ∧
      ∀ d ∈ a.databases,
        (∃ s ∈ shown, s.header = d.header ∧
          d.throughput.ShownAt a.serverless (placesIn "options" s.body)) ∧
        ∀ c ∈ d.containers, ∃ s ∈ shown, s.header = c.header ∧
          c.throughput.ShownAt a.serverless (placesIn "options" s.body) := by
  obtain ⟨⟨shown, hblocks⟩, hvalid⟩ := Document.blocks_of_render h
  have hfamily := Document.mem_declarations hdoc
  refine ⟨shown, hblocks, ?account, fun d hd => ⟨?database, fun c hc => ?container⟩⟩
  case account =>
    obtain ⟨s, hs, hheader, hbody⟩ := hblocks.exists_block (hfamily _ a.mem_family)
    exact ⟨s, hs, hheader, capabilities_of_body hbody⟩
  case database =>
    have hmem := hfamily _ (database_mem_family hd)
    obtain ⟨left, hv⟩ := hvalid _ hmem
    obtain ⟨s, hs, hheader, hbody⟩ := hblocks.exists_block hmem
    rw [← (ha.owns d hd).serverless_eq]
    exact ⟨s, hs, hheader, Database.shownAt_of_validate hv hbody⟩
  case container =>
    have hmem := hfamily _ (container_mem_family hd hc)
    obtain ⟨left, hv⟩ := hvalid _ hmem
    obtain ⟨s, hs, hheader, hbody⟩ := hblocks.exists_block hmem
    rw [← ((ha.owns d hd).containers_owned c hc).serverless_eq]
    exact ⟨s, hs, hheader, Container.shownAt_of_validate hv hbody⟩

/-- A throughput that is set while the account is still serverless shows once it no longer is. -/
theorem Reachable.throughput_of_render_asStandard :
    let orders : Database :=
      ⟨⟨⟨"orders", by decide⟩, Database.type, false⟩, defaultSymbol, true, [], ⟨some 400, none⟩⟩
    let shop : Account := ((Account.new "shop").addDatabase orders).asStandard
    let doc : Document := { resources := [.account shop] }
    shop.Reachable ∧ .account shop ∈ doc.resources ∧
      ∃ text warnings, doc.render = .ok (text, warnings) ∧
        ∃ shown, doc.Blocks text shown ∧ ∃ s ∈ shown, s.header = orders.header ∧
          placesIn "options" s.body =
            [⟨["properties"], .bag "options" [.int "throughput" 400]⟩] := by
  intro orders shop doc
  have hbuilt : orders.Built :=
    (@Database.Built.new (Account.new "shop") "orders" _ rfl).step
      (.configure ⟨rfl, rfl, rfl, rfl⟩)
  have ha : shop.Reachable := ((Reachable.new "shop").step (.addDatabase hbuilt)).step .asStandard
  have hdoc : .account shop ∈ doc.resources := List.mem_cons_self
  obtain ⟨text, warnings, hrender⟩ : ∃ text warnings, doc.render = .ok (text, warnings) :=
    ⟨_, _, rfl⟩
  obtain ⟨shown, hblocks, -, hdatabases⟩ := ha.throughput_of_render hdoc hrender
  obtain ⟨⟨s, hs, hheader, hoptions⟩, -⟩ := hdatabases _ List.mem_cons_self
  refine ⟨ha, hdoc, text, warnings, hrender, shown, hblocks, s, hs, hheader, ?_⟩
  generalize placesIn "options" s.body = places at hoptions ⊢
  cases hoptions with
  | manual h amount => rfl

end Account

end BicepTemplates.Cosmos
