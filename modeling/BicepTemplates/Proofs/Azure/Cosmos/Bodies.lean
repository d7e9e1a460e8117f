import BicepTemplates.Proofs.Property.Places
import BicepTemplates.Proofs.Resource.Hierarchy
import BicepTemplates.Proofs.Success
import BicepTemplates.Resource.Kinds

/-! # What accounts, databases, containers and grants construct

The bodies of an account, of what it owns and of a grant on one of these, and where in them the
serverless capability and the options for throughput stand. No other part of a body uses their keys.
-/

namespace BicepTemplates.Cosmos

theorem Account.body_eq (a : Account) : ∃ name, (Resource.account a).body =
    .ok [.scalar "name" name, .scalar "location" location, .bag "properties" a.properties] :=
  ⟨_, rfl⟩

theorem Database.body_eq (d : Database) : (Resource.database d).body =
    .ok [.scalar "parent" d.account.reference, .text "name" d.header.name.text,
      .scalar "location" location, .bag "properties"
        (d.throughput.options?.toList ++ [.bag "resource" [.text "id" d.header.name.text]])] :=
  rfl

theorem Container.body_eq_ok_iff (c : Container) {body : List Property} :
    (Resource.container c).body = .ok body ↔ ∃ key, c.partitionKey = some key ∧
      body = [.scalar "parent" c.database.reference, .text "name" c.header.name.text,
        .scalar "location" location, .bag "properties"
          (c.throughput.options?.toList ++ [c.resourceProperty key])] := by
  cases hkey : c.partitionKey with
  | none =>
    have hbody : (Resource.container c).body =
        .error (.validation c.header.name.text .validating Container.partitionKeyMissing) := by
      simp only [Resource.body, Resource.construct, Container.construct, hkey]
      rfl
    simp [hbody]
  | some key =>
    have hbody : (Resource.container c).body =
        .ok [.scalar "parent" c.database.reference, .text "name" c.header.name.text,
          .scalar "location" location, .bag "properties"
            (c.throughput.options?.toList ++ [c.resourceProperty key])] := by
      simp only [Resource.body, Resource.construct, Container.construct, hkey]
      rfl
    simp [hbody, eq_comm]

def DataScope.resolved : DataScope → Expr
  | account a => .member a.reference "id"
  | database a d =>
    .interpolation "" (.member a.reference "id")
      (.next "/dbs/" (.member d.reference "name") (.last ""))
  | container a d c =>
    .interpolation "" (.member a.reference "id")
      (.next "/dbs/" (.member d.reference "name")
        (.next "/colls/" (.member c.reference "name") (.last "")))

theorem DataGrant.body_of_parts {g : DataGrant} {scope : DataScope} {role : DataRole}
    {principalId : Expr} (h : g.parts = .ok (scope, role, principalId)) :
    (Resource.dataGrant g).body =
      .ok [.scalar "parent" scope.accountName.reference,
        .scalar "name"
          (.call "guid" [.member scope.accountName.reference "id", .text g.header.name.text]),
        .bag "properties" [.scalar "roleDefinitionId" (role.definitionId scope.accountName),
          .scalar "scope" scope.resolved, .scalar "principalId" principalId]] := by
  simp only [Resource.body, Resource.construct, DataGrant.construct, h]
  cases scope <;> rfl

section Family

variable {a : Account} {d : Database} {c : Container}

theorem Account.mem_family (a : Account) : .account a ∈ (Resource.account a).family :=
  Resource.hierarchy.self_mem_preorder _

theorem Account.mem_family_of_database {r : Resource} (hd : d ∈ a.databases)
    (hr : r ∈ (Resource.database d).family) : r ∈ (Resource.account a).family :=
  Hierarchy.mem_preorder_of_mem_children (List.mem_map_of_mem hd) hr

theorem Account.database_mem_family (hd : d ∈ a.databases) :
    .database d ∈ (Resource.account a).family :=
  mem_family_of_database hd (Resource.hierarchy.self_mem_preorder _)

theorem Account.container_mem_family (hd : d ∈ a.databases) (hc : c ∈ d.containers) :
    .container c ∈ (Resource.account a).family :=
  mem_family_of_database hd (Hierarchy.mem_preorder_of_mem_children (List.mem_map_of_mem hc)
    (Resource.hierarchy.self_mem_preorder _))

end Family

section Options

theorem placesIn_options (t : Throughput) : placesIn "options" t.options?.toList =
    t.options?.toList.map fun p => ⟨[], p⟩ := by
  obtain ⟨manual, autoscale⟩ := t
  cases autoscale <;> cases manual <;> simp [Throughput.options?]

theorem pathsArray_places_options (paths : List String) :
    (pathsArray paths).places "options" = [] := by
  simp [pathsArray, placesAmong_map_eq_nil Element.places_text]

theorem IncludedPath.places_options (p : IncludedPath) : p.element.places "options" = [] := by
  have hindexes : ∀ i : Index, i.element.places "options" = [] := by
    intro i
    simp [Index.element, placesIn_toList_map_eq_nil]
  simp [element, placesAmong_map_eq_nil hindexes]

theorem CompositeIndex.places_options (i : CompositeIndex) :
    i.element.places "options" = [] := by
  simp [element, placesAmong_map_eq_nil]

theorem IndexingPolicy.places_options (p : IndexingPolicy) :
    p.property.places "options" = [] := by
  simp [property, placesAmong_map_eq_nil, CompositeIndex.places_options,
    IncludedPath.places_options]

theorem Container.places_options_resourceProperty (c : Container) (key : PartitionKey) :
    (c.resourceProperty key).places "options" = [] := by
  have hkey : key.property.places "options" = [] := by
    simp [PartitionKey.property, pathsArray_places_options]
  have hcomputed : ∀ p : ComputedProperty, p.element.places "options" = [] := by
    simp [ComputedProperty.element]
  have hunique : ∀ k : UniqueKey, k.element.places "options" = [] := by
    simp [UniqueKey.element, pathsArray_places_options]
  simp [resourceProperty, placesIn_toList_map_eq_nil, placesAmong_map_eq_nil, hkey, hcomputed,
    hunique, IndexingPolicy.places_options]

theorem Database.options_of_body {d : Database} {body : List Property}
    (h : (Resource.database d).body = .ok body) : placesIn "options" body =
      d.throughput.options?.toList.map fun p => ⟨["properties"], p⟩ := by
  obtain rfl := Except.ok.inj (d.body_eq.symm.trans h)
  simp [placesIn_options, Property.Place.nested, Function.comp_def]

theorem Container.options_of_body {c : Container} {body : List Property}
    (h : (Resource.container c).body = .ok body) : placesIn "options" body =
      c.throughput.options?.toList.map fun p => ⟨["properties"], p⟩ := by
  obtain ⟨key, -, rfl⟩ := c.body_eq_ok_iff.mp h
  simp [placesIn_options, Property.Place.nested, Function.comp_def,
    c.places_options_resourceProperty key]

end Options

section Capabilities

theorem BackupPolicy.places_capabilities (b : BackupPolicy) :
    b.property.places "capabilities" = [] := by
  cases b with
  | continuous tier => simp [property]
  | periodic interval retention redundancy => simp [property, placesIn_toList_map_eq_nil]

theorem Consistency.places_capabilities (c : Consistency) :
    c.property.places "capabilities" = [] := by
  simp [property, placesIn_toList_map_eq_nil]

theorem Features.placesIn_capabilities (f : Features) :
    placesIn "capabilities" f.properties = [] := by
  have hname : ∀ n ∈ f.named, n.1 ≠ "capabilities" := by simp [named]
  refine placesIn_eq_nil fun p hp => ?_
  obtain ⟨n, hn, rfl⟩ := List.mem_map.mp hp
  rw [places_bool, if_neg (hname n (List.mem_filter.mp hn).1)]

theorem Network.placesIn_capabilities (n : Network) :
    placesIn "capabilities" n.ipProperties = [] ∧ placesIn "capabilities" n.filterProperties = [] ∧
      placesIn "capabilities" n.bypassProperties = [] ∧
      placesIn "capabilities" n.virtualNetworkProperties = [] := by
  have hrule : ∀ r : VirtualNetworkRule, r.element.places "capabilities" = [] := by
    simp [VirtualNetworkRule.element]
  simp [ipProperties, filterProperties, bypassProperties, virtualNetworkProperties,
    placesAmong_map_eq_nil, placesAmong_map_eq_nil Element.places_scalar, hrule]

theorem Account.placesIn_capabilities (a : Account) : placesIn "capabilities" a.properties =
    a.capabilityProperties.map fun p => ⟨[], p⟩ := by
  have hregion : ∀ r : Region, r.element.places "capabilities" = [] := by simp [Region.element]
  have hcapability : placesIn "capabilities" a.capabilityProperties =
      a.capabilityProperties.map fun p => ⟨[], p⟩ := by
    cases h : a.serverless <;> simp [capabilityProperties, h]
  obtain ⟨hip, hfilter, hbypass, hvirtual⟩ := a.network.placesIn_capabilities
  simp [properties, hcapability, hip, hfilter, hbypass, hvirtual, hregion, placesAmong_map_eq_nil,
    placesIn_toList_map_eq_nil, a.backup.places_capabilities, a.consistency.places_capabilities,
    a.features.placesIn_capabilities]

theorem Account.capabilities_of_body {a : Account} {body : List Property}
    (h : (Resource.account a).body = .ok body) : placesIn "capabilities" body =
      if a.serverless then [⟨["properties"], .array "capabilities" [.text "EnableServerless"]⟩]
      else [] := by
  obtain ⟨name, hbody⟩ := a.body_eq
  obtain rfl := Except.ok.inj (hbody.symm.trans h)
  cases h : a.serverless <;>
    simp [a.placesIn_capabilities, Property.Place.nested, capabilityProperties, h]

end Capabilities

end BicepTemplates.Cosmos
