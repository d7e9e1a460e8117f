import BicepTemplates.Proofs.Azure.Cosmos.Acceptance
import BicepTemplates.Proofs.Azure.Cosmos.Keys
import BicepTemplates.Proofs.Property.Entries
import BicepTemplates.Proofs.Resource.Construction

/-! # Every setting is written

Some settings are written only together with others: virtual network rules with their filter,
resource ids with the bypass, both limits with bounded staleness. The checks rule out that one is
set and would be left out.
-/

namespace BicepTemplates.Cosmos

/-! ### Entries of an account -/

namespace Account

end Account

section Accounts

@[simp] theorem Features.withKey_properties (f : Features) {key : String} :
    withKey key f.properties =
      (f.named.filter fun s => s.1 = key && s.2).map fun s => .bool s.1 true := by
  rw [properties, withKey, List.filter_map, List.filter_filter]
  rfl

namespace Network

variable (n : Network) {key : String}

@[simp] theorem withKey_ip :
    withKey key n.ipProperties = if "ipRules" = key then n.ipProperties else [] :=
  n.keyedBy_ip.withKey_single

@[simp] theorem withKey_filter : withKey key n.filterProperties =
    if "isVirtualNetworkFilterEnabled" = key then n.filterProperties else [] :=
  n.keyedBy_filter.withKey_single

@[simp] theorem withKey_virtualNetwork : withKey key n.virtualNetworkProperties =
    if "virtualNetworkRules" = key then n.virtualNetworkProperties else [] :=
  n.keyedBy_virtualNetwork.withKey_single

end Network

namespace Account

variable {a : Account} {key : String} {path : List String} {body : List Property}

@[simp] theorem withKey_capability : withKey key a.capabilityProperties =
    if "capabilities" = key then a.capabilityProperties else [] :=
  a.keyedBy_capability.withKey_single

end Account

end Accounts

/-! ### Lists of a container, and lists within their entries -/

section Containers

@[simp] theorem PartitionKey.name_property (k : PartitionKey) :
    k.property.name = "partitionKey" := rfl

@[simp] theorem Throughput.withKey_options (t : Throughput) {key : String} :
    withKey key t.options?.toList = if "options" = key then t.options?.toList else [] :=
  t.keyedBy.withKey_single

@[simp] theorem IndexingPolicy.withKey_toList_map {policy : Option IndexingPolicy} {key : String} :
    withKey key (policy.map property).toList =
      if "indexingPolicy" = key then (policy.map property).toList else [] :=
  BicepTemplates.withKey_toList_map fun _ => rfl

namespace Container

variable {c : Container} {body : List Property}

end Container

end Containers

end BicepTemplates.Cosmos
