import BicepTemplates.Resource.Basic
import BicepTemplates.Resource.Rule

/-! # Settings of an account

The groups of settings of an account, each with its rules and with the properties it is written
as: consistency, backups, the network, optional features and regions.
-/

namespace BicepTemplates.Cosmos

inductive ConsistencyLevel where
  | eventual
  | consistentPrefix
  | session
  | boundedStaleness
  | strong
  deriving DecidableEq, Repr

def ConsistencyLevel.text : ConsistencyLevel → String
  | eventual => "Eventual"
  | consistentPrefix => "ConsistentPrefix"
  | session => "Session"
  | boundedStaleness => "BoundedStaleness"
  | strong => "Strong"

/-- Both limits are needed with bounded staleness and written only then. -/
structure Consistency where
  level : ConsistencyLevel := .session
  maxStalenessPrefix : Option Int := none
  maxIntervalInSeconds : Option Int := none
  deriving DecidableEq, Repr

namespace Consistency

def rules (c : Consistency) : List Rule :=
  if c.level = .boundedStaleness then
    let reason := "when the consistency level is BoundedStaleness"
    [.required "max_staleness_prefix" reason c.maxStalenessPrefix,
      .required "max_interval_in_seconds" reason c.maxIntervalInSeconds,
      .range "max_staleness_prefix" 1 Rule.maxSetting c.maxStalenessPrefix,
      .range "max_interval_in_seconds" 5 86400 c.maxIntervalInSeconds]
  else []

def property (c : Consistency) : Property :=
  .bag "consistencyPolicy" (.text "defaultConsistencyLevel" c.level.text ::
    if c.level = .boundedStaleness then
      (c.maxIntervalInSeconds.map fun n => Property.int "maxIntervalInSeconds" n).toList ++
        (c.maxStalenessPrefix.map fun n => Property.int "maxStalenessPrefix" n).toList
    else [])

end Consistency

inductive ContinuousTier where
  | sevenDays
  | thirtyDays
  deriving DecidableEq, Repr

def ContinuousTier.text : ContinuousTier → String
  | sevenDays => "Continuous7Days"
  | thirtyDays => "Continuous30Days"

inductive StorageRedundancy where
  | geographic
  | singleRegion
  | zonal
  deriving DecidableEq, Repr

def StorageRedundancy.text : StorageRedundancy → String
  | geographic => "Geo"
  | singleRegion => "Local"
  | zonal => "Zone"

inductive BackupPolicy where
  | continuous (tier : ContinuousTier)
  | periodic (interval retention : Option Int) (redundancy : StorageRedundancy)
  deriving DecidableEq, Repr

namespace BackupPolicy

def rules : BackupPolicy → List Rule
  | continuous _ => []
  | periodic interval retention _ =>
    let reason := "for periodic backups"
    [.required "interval_in_minutes" reason interval,
      .required "retention_interval_in_minutes" reason retention,
      .range "interval_in_minutes" 0 Rule.maxSetting interval,
      .range "retention_interval_in_minutes" 0 Rule.maxSetting retention]

def property : BackupPolicy → Property
  | continuous tier =>
    .bag "backupPolicy"
      [.text "type" "Continuous", .bag "continuousModeProperties" [.text "tier" tier.text]]
  | periodic interval retention redundancy =>
    .bag "backupPolicy"
      [.text "type" "Periodic",
        .bag "periodicModeProperties"
          ((interval.map fun n => Property.int "periodicIntervalInMinutes" n).toList ++
            (retention.map fun n => Property.int "periodicRetentionIntervalInMinutes" n).toList ++
            [.text "backupStorageRedundancy" redundancy.text])]

end BackupPolicy

inductive AclBypass where
  | none
  | azureServices
  deriving DecidableEq, Repr

def AclBypass.text : AclBypass → String
  | none => "None"
  | azureServices => "AzureServices"

inductive PublicAccess where
  | disabled
  | enabled
  | securedByPerimeter
  deriving DecidableEq, Repr

/-- The service itself misspells the perimeter. -/
def PublicAccess.text : PublicAccess → String
  | disabled => "Disabled"
  | enabled => "Enabled"
  | securedByPerimeter => "SecuredByPerimiter"

/-- Admits a subnet, given by its resource id. -/
structure VirtualNetworkRule where
  id : Expr
  ignoreMissingEndpoint : Bool := false

def VirtualNetworkRule.element (r : VirtualNetworkRule) : Element :=
  .bag (.scalar "id" r.id ::
    if r.ignoreMissingEndpoint then [.bool "ignoreMissingVNetServiceEndpoint" true] else [])

structure Network where
  bypass : AclBypass := .none
  bypassResourceIds : List Expr := []
  publicAccess : PublicAccess := .securedByPerimeter
  ipRules : List Expr := []
  virtualNetworkFilter : Bool := false
  virtualNetworkRules : List VirtualNetworkRule := []

namespace Network

def rules (n : Network) : List Rule :=
  [.forbid (!n.virtualNetworkRules.isEmpty && !n.virtualNetworkFilter)
      (.missingField "is_virtual_network_filter_enabled"
        "for virtual network rules to be honoured"),
    .forbid (n.bypass == .none && !n.bypassResourceIds.isEmpty)
      (.unsupported ("network_acl_bypass_resource_ids can only be set when " ++
        "network_acl_bypass is AzureServices"))]

def ipProperties (n : Network) : List Property :=
  if n.ipRules.isEmpty then []
  else [.array "ipRules" (n.ipRules.map fun rule => .bag [.scalar "ipAddressOrRange" rule])]

def filterProperties (n : Network) : List Property :=
  if n.virtualNetworkFilter then [.bool "isVirtualNetworkFilterEnabled" true] else []

def bypassProperties (n : Network) : List Property :=
  if n.bypass = .none then []
  else .text "networkAclBypass" n.bypass.text ::
    if n.bypassResourceIds.isEmpty then []
    else [.array "networkAclBypassResourceIds" (n.bypassResourceIds.map .scalar)]

def virtualNetworkProperties (n : Network) : List Property :=
  if n.virtualNetworkFilter && !n.virtualNetworkRules.isEmpty then
    [.array "virtualNetworkRules" (n.virtualNetworkRules.map VirtualNetworkRule.element)]
  else []

end Network

inductive TlsVersion where
  | tls
  | tls11
  | tls12
  deriving DecidableEq, Repr

def TlsVersion.text : TlsVersion → String
  | tls => "Tls"
  | tls11 => "Tls11"
  | tls12 => "Tls12"

/-- A region the account runs in. Priority 0 is the one that takes writes. -/
structure Region where
  name : Expr
  failoverPriority : Int
  zoneRedundant : Bool := false

def Region.element (r : Region) : Element :=
  .bag [.int "failoverPriority" r.failoverPriority, .scalar "locationName" r.name,
    .bool "isZoneRedundant" r.zoneRedundant]

/-- Switches that are written only when they are on. -/
structure Features where
  disableLocalAuth : Bool := false
  automaticFailover : Bool := false
  analyticalStorage : Bool := false
  burstCapacity : Bool := false
  freeTier : Bool := false
  multipleWriteLocations : Bool := false
  priorityBasedExecution : Bool := false
  deriving DecidableEq, Repr

namespace Features

/-- The switches with their property names, in the order they are written. -/
def named (f : Features) : List (String × Bool) :=
  [("disableLocalAuth", f.disableLocalAuth),
    ("enableAutomaticFailover", f.automaticFailover),
    ("enableAnalyticalStorage", f.analyticalStorage),
    ("enableBurstCapacity", f.burstCapacity),
    ("enableFreeTier", f.freeTier),
    ("enableMultipleWriteLocations", f.multipleWriteLocations),
    ("enablePriorityBasedExecution", f.priorityBasedExecution)]

def properties (f : Features) : List Property :=
  (f.named.filter (·.2)).map fun (name, _) => .bool name true

/-- What a serverless account cannot have. -/
def serverlessRules (f : Features) : List Rule :=
  [(f.freeTier, "enable_free_tier"), (f.burstCapacity, "enable_burst_capacity"),
    (f.multipleWriteLocations, "enable_multiple_write_locations"),
    (f.priorityBasedExecution, "enable_priority_based_execution")].map fun (on, field) =>
      .forbid on (.mutuallyExclusive "serverless" field)

end Features

end BicepTemplates.Cosmos
