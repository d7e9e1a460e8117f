import BicepTemplates.Proofs.Azure.Cosmos.Bodies
import BicepTemplates.Proofs.Property.Keys

/-! # Keys of accounts, databases, containers and grants

Each part of a body is put together from the keys it may have, in a fixed order and with no key
twice, whichever of its settings are made.
-/

namespace BicepTemplates.Cosmos

open Property (keysDiffer_array_map keysDiffer_bag)

section Containers

theorem keysDiffer_pathsArray (paths : List String) : (pathsArray paths).KeysDiffer :=
  keysDiffer_array_map Element.keysDiffer_text

theorem PartitionKey.keysDiffer (k : PartitionKey) : k.property.KeysDiffer := by
  unfold property pathsArray
  split <;> simp

theorem UniqueKey.keysDiffer (k : UniqueKey) : k.element.KeysDiffer := by
  simp [element, keysDiffer_pathsArray]

theorem ComputedProperty.keysDiffer (p : ComputedProperty) : p.element.KeysDiffer := by
  simp [element]

theorem Index.keysDiffer (i : Index) : i.element.KeysDiffer := by
  refine Element.keysDiffer_bag.mpr (.of_keyedBy ["dataType", "kind", "precision"] (by decide) ?_)
  rw [List.append_assoc]
  exact .next .toList_map_scalar (.next .toList_map_scalar .toList_map_scalar)

theorem IncludedPath.keysDiffer (p : IncludedPath) : p.element.KeysDiffer := by
  refine Element.keysDiffer_bag.mpr (.of_keyedBy ["path", "indexes"] (by decide) ?_)
  exact .cons rfl (.scalar _ _) (.ite .nil (.single rfl (keysDiffer_array_map Index.keysDiffer)))

theorem CompositeIndex.keysDiffer (i : CompositeIndex) : i.element.KeysDiffer := by
  refine Element.keysDiffer_bag.mpr (.of_keyedBy ["paths"] (by decide) (.single rfl ?_))
  exact keysDiffer_array_map fun path => by simp

theorem IndexingPolicy.keysDiffer (p : IndexingPolicy) : p.property.KeysDiffer := by
  refine keysDiffer_bag.mpr (.of_keyedBy
    ["indexingMode", "automatic", "compositeIndexes", "excludedPaths", "includedPaths"]
    (by decide) ?_)
  simp only [List.cons_append, List.nil_append]
  refine .cons rfl (.scalar _ _) (.cons rfl (.scalar _ _) (.next ?composite
    (.cons rfl ?excluded (.single rfl ?included))))
  case composite => exact .ite .nil (.single rfl (keysDiffer_array_map CompositeIndex.keysDiffer))
  case excluded => exact keysDiffer_array_map fun path => by simp
  case included => exact keysDiffer_array_map IncludedPath.keysDiffer

theorem Throughput.keyedBy (t : Throughput) : KeyedBy ["options"] t.options?.toList := by
  obtain ⟨manual, autoscale⟩ := t
  unfold options?
  split
  · exact .single rfl (by simp)
  · exact .single rfl (by simp)
  · exact .nil

theorem Container.keysDiffer_resourceProperty (c : Container) (key : PartitionKey) :
    (c.resourceProperty key).KeysDiffer := by
  refine keysDiffer_bag.mpr (.of_keyedBy
    ["id", "analyticalStorageTtl", "computedProperties", "defaultTtl", "indexingPolicy",
      "partitionKey", "uniqueKeyPolicy"] (by decide) ?_)
  simp only [List.cons_append, List.nil_append, List.append_assoc]
  refine .cons rfl (.scalar _ _) (.next .toList_map_scalar (.next ?computed
    (.next .toList_map_scalar (.next ?policy (.cons rfl key.keysDiffer ?unique)))))
  case computed => exact .ite .nil (.single rfl (keysDiffer_array_map ComputedProperty.keysDiffer))
  case policy => exact .toList_map (fun _ => rfl) IndexingPolicy.keysDiffer
  case unique =>
    refine .ite .nil (.single rfl (keysDiffer_bag.mpr ?_))
    exact .of_keyedBy ["uniqueKeys"] (by decide)
      (.single rfl (keysDiffer_array_map UniqueKey.keysDiffer))

theorem Container.keysDiffer_of_body {c : Container} {body : List Property}
    (h : (Resource.container c).body = .ok body) : KeysDifferIn body := by
  obtain ⟨key, -, rfl⟩ := c.body_eq_ok_iff.mp h
  have hproperties : KeysDifferIn (c.throughput.options?.toList ++ [c.resourceProperty key]) :=
    .of_keyedBy ["options", "resource"] (by decide)
      (.next c.throughput.keyedBy (.single rfl (c.keysDiffer_resourceProperty key)))
  simp [hproperties]

theorem Database.keysDiffer_of_body {d : Database} {body : List Property}
    (h : (Resource.database d).body = .ok body) : KeysDifferIn body := by
  obtain rfl := Except.ok.inj (d.body_eq.symm.trans h)
  have hproperties : KeysDifferIn
      (d.throughput.options?.toList ++ [.bag "resource" [.text "id" d.header.name.text]]) :=
    .of_keyedBy ["options", "resource"] (by decide)
      (.next d.throughput.keyedBy (.single rfl (by simp)))
  simp [hproperties]

end Containers

section Accounts

@[simp] theorem Consistency.name_property (c : Consistency) :
    c.property.name = "consistencyPolicy" := rfl

theorem Consistency.keysDiffer (c : Consistency) : c.property.KeysDiffer := by
  refine keysDiffer_bag.mpr (.of_keyedBy
    ["defaultConsistencyLevel", "maxIntervalInSeconds", "maxStalenessPrefix"] (by decide) ?_)
  exact .cons rfl (.scalar _ _) (.ite (.next .toList_map_scalar .toList_map_scalar) .nil)

theorem BackupPolicy.keysDiffer (b : BackupPolicy) : b.property.KeysDiffer := by
  cases b with
  | continuous tier => simp [property]
  | periodic interval retention redundancy =>
    have hperiodic : KeysDifferIn
        ((interval.map fun n => Property.int "periodicIntervalInMinutes" n).toList ++
          ((retention.map fun n => Property.int "periodicRetentionIntervalInMinutes" n).toList ++
            [.text "backupStorageRedundancy" redundancy.text])) :=
      .of_keyedBy ["periodicIntervalInMinutes", "periodicRetentionIntervalInMinutes",
        "backupStorageRedundancy"] (by decide)
        (.next .toList_map_scalar (.next .toList_map_scalar (.single rfl (.scalar _ _))))
    simp [property, hperiodic]

@[simp] theorem BackupPolicy.name_property (b : BackupPolicy) :
    b.property.name = "backupPolicy" := by
  cases b <;> rfl

/-- The names of all switches, which are the same whichever are on. -/
def Features.keys : List String := (named {}).map Prod.fst

theorem Features.keyedBy (f : Features) : KeyedBy keys f.properties where
  names := by
    have hnames : f.properties.map Property.name = (f.named.filter (·.2)).map Prod.fst := by
      simp [properties]
    rw [hnames]
    exact List.filter_sublist.map Prod.fst
  below := List.forall_mem_map.mpr fun n _ => Property.keysDiffer_bool true

theorem VirtualNetworkRule.keysDiffer (r : VirtualNetworkRule) : r.element.KeysDiffer := by
  refine Element.keysDiffer_bag.mpr (.of_keyedBy ["id", "ignoreMissingVNetServiceEndpoint"]
    (by decide) ?_)
  exact .cons rfl (.scalar _ _) (.ite (.single rfl (.scalar _ _)) .nil)

theorem Region.keysDiffer (r : Region) : r.element.KeysDiffer := by
  simp [element]

namespace Network

variable (n : Network)

theorem keyedBy_ip : KeyedBy ["ipRules"] n.ipProperties :=
  .ite .nil (.single rfl (keysDiffer_array_map fun rule => by simp))

theorem keyedBy_filter : KeyedBy ["isVirtualNetworkFilterEnabled"] n.filterProperties :=
  .ite (.single rfl (.scalar _ _)) .nil

theorem keyedBy_bypass :
    KeyedBy ["networkAclBypass", "networkAclBypassResourceIds"] n.bypassProperties :=
  .ite .nil (.cons rfl (.scalar _ _)
    (.ite .nil (.single rfl (keysDiffer_array_map Element.keysDiffer_scalar))))

theorem keyedBy_virtualNetwork : KeyedBy ["virtualNetworkRules"] n.virtualNetworkProperties :=
  .ite (.single rfl (keysDiffer_array_map VirtualNetworkRule.keysDiffer)) .nil

end Network

theorem Account.keyedBy_capability (a : Account) :
    KeyedBy ["capabilities"] a.capabilityProperties :=
  .ite (.single rfl (by simp)) .nil

theorem Account.keysDifferIn_properties (a : Account) : KeysDifferIn a.properties := by
  refine .of_keyedBy
    (["backupPolicy", "capabilities", "consistencyPolicy", "capacity"] ++ (Features.keys ++
      ["ipRules", "isVirtualNetworkFilterEnabled", "locations", "minimumTlsVersion",
        "networkAclBypass", "networkAclBypassResourceIds", "publicNetworkAccess",
        "virtualNetworkRules"])) (by decide) ?_
  simp only [properties, List.cons_append, List.nil_append, List.append_assoc]
  refine .cons a.backup.name_property a.backup.keysDiffer (.next a.keyedBy_capability
    (.cons rfl a.consistency.keysDiffer (.next ?capacity (.append a.features.keyedBy ?rest))))
  case capacity => exact .toList_map (fun _ => rfl) fun limit => by simp
  case rest =>
    exact .next a.network.keyedBy_ip (.next a.network.keyedBy_filter
      (.cons rfl (keysDiffer_array_map Region.keysDiffer) (.cons rfl (.scalar _ _)
        (.append a.network.keyedBy_bypass
          (.cons rfl (.scalar _ _) a.network.keyedBy_virtualNetwork)))))

theorem Account.keysDiffer_of_body {a : Account} {body : List Property}
    (h : (Resource.account a).body = .ok body) : KeysDifferIn body := by
  obtain ⟨name, hbody⟩ := a.body_eq
  obtain rfl := Except.ok.inj (hbody.symm.trans h)
  simp [a.keysDifferIn_properties]

end Accounts

theorem DataGrant.keysDiffer_of_body {g : DataGrant} {body : List Property}
    (h : (Resource.dataGrant g).body = .ok body) : KeysDifferIn body := by
  cases hparts : g.parts with
  | error cause =>
    have hbody : (Resource.dataGrant g).body =
        .error (.validation g.header.name.text .validating cause) := by
      simp only [Resource.body, Resource.construct, DataGrant.construct, hparts]
      rfl
    simp [hbody] at h
  | ok parts =>
    obtain rfl := Except.ok.inj ((DataGrant.body_of_parts hparts).symm.trans h)
    simp

end BicepTemplates.Cosmos
