import BicepTemplates.Azure.Cosmos.Database
import BicepTemplates.Azure.Cosmos.Settings
import BicepTemplates.Interface
import BicepTemplates.Text.Lowercase

/-! # Accounts

An account owns databases, and through them containers. Whatever changes its symbol or its
serverless setting hands the change down, so that every descendant agrees with the account it
belongs to. A new account is serverless.
-/

namespace BicepTemplates.Cosmos

structure Account where
  header : Header
  accountName : String
  serverless : Bool := true
  databases : List Database := []
  consistency : Consistency := {}
  backup : BackupPolicy := .continuous .sevenDays
  totalThroughputLimit : Option Int := none
  regions : List Region := [⟨location, 0, false⟩]
  network : Network := {}
  minimumTls : TlsVersion := .tls12
  features : Features := {}

namespace Account

def type : String :=
  "Microsoft.DocumentDB/databaseAccounts@" ++ apiVersion

/-- The symbol of an account until it gets another one. -/
def defaultSymbol : Name := ⟨"cosmosDbAccount", by decide⟩

def new (accountName : String) : Account :=
  { header := { name := defaultSymbol, type }, accountName }

def withSymbol (symbol : String) (a : Account) : Except NameError Account := do
  let name ← Name.ofString symbol
  return { a with
    header := { a.header with name }
    databases := a.databases.map (Database.setAccount name) }

def setServerless (serverless : Bool) (a : Account) : Account :=
  { a with serverless, databases := a.databases.map (Database.setServerless serverless) }

/-- Provisioned throughput instead of serverless. -/
def asStandard (a : Account) : Account :=
  a.setServerless false

/-- Serverless, open to the public network and to the services of the platform, seven days of
continuous backups, local authentication enabled. -/
def withDevelopmentDefaults (a : Account) : Account :=
  let a := a.setServerless true
  { a with
    network := { a.network with bypass := .azureServices, publicAccess := .enabled }
    backup := .continuous .sevenDays
    features := { a.features with disableLocalAuth := false } }

/-- A database for this account, not added to it yet. -/
def newDatabase (name : String) (a : Account) : Except NameError Database := do
  return {
    header := { name := ← Name.ofString name, type := Database.type }
    account := a.header.name
    serverless := a.serverless }

/-- The database goes behind the others and takes over what this account prescribes. -/
def addDatabase (d : Database) (a : Account) : Account :=
  { a with databases :=
      a.databases ++ [(d.setAccount a.header.name).setServerless a.serverless] }

def rules (a : Account) : List Rule :=
  a.consistency.rules ++
    [.forbid a.regions.isEmpty (.missingField "locations" "for every account"),
      .forbid (a.features.automaticFailover && a.regions.length == 1)
        (.unsupported "automatic failover needs more than one location")] ++
    (if a.serverless then
      a.features.serverlessRules ++
        [.forbid (decide (1 < a.regions.length))
          (.unsupported
            "serverless accounts support a single location, which can be zone redundant")]
    else []) ++
    a.network.rules ++ a.backup.rules

def warnings (a : Account) : List Warning :=
  (if a.network.bypass = .azureServices ∧ a.network.bypassResourceIds.isEmpty then
    [⟨a.accountName, "network ACL bypass is AzureServices without bypass resource ids, " ++
      "all Azure services can access the account"⟩]
  else []) ++
  (if a.features.disableLocalAuth then []
  else
    [⟨a.accountName, "local authentication is enabled, disable it outside of development"⟩])

def capabilityProperties (a : Account) : List Property :=
  if a.serverless then [.array "capabilities" [.text "EnableServerless"]] else []

def properties (a : Account) : List Property :=
  [a.backup.property] ++ a.capabilityProperties ++ [a.consistency.property] ++
    (a.totalThroughputLimit.map fun limit =>
      Property.bag "capacity" [.int "totalThroughputLimit" limit]).toList ++
    a.features.properties ++ a.network.ipProperties ++ a.network.filterProperties ++
    [.array "locations" (a.regions.map Region.element),
      .text "minimumTlsVersion" a.minimumTls.text] ++
    a.network.bypassProperties ++
    [.text "publicNetworkAccess" a.network.publicAccess.text] ++
    a.network.virtualNetworkProperties

/-- The deployed name starts with the account name in lower case. -/
def construct (a : Account) : Construction Unit := do
  let name ← ExceptT.mk (pure
    ((uniqueName (Lowercase.lowercase a.accountName)).mapError Error.expression))
  .add (.scalar "name" name)
  .add (.scalar "location" location)
  .add (.bag "properties" a.properties)

/-- The endpoint under which documents are reached. -/
def outputs (a : Account) : List Output :=
  [⟨⟨"accountEndpoint", by decide⟩, .string,
    .member (.member a.header.name.reference "properties") "documentEndpoint"⟩]

end Account

end BicepTemplates.Cosmos
