import BicepTemplates.Azure.Cosmos.Indexing
import BicepTemplates.Azure.Cosmos.Throughput
import BicepTemplates.Resource.Basic

/-! # Containers

A container belongs to a database of an account and keeps the symbols of both. Its name is its
symbol and its id. It has to have a partition key.
-/

namespace BicepTemplates.Cosmos

structure Container where
  header : Header
  account : Name
  database : Name
  serverless : Bool
  partitionKey : Option PartitionKey := none
  throughput : Throughput := {}
  analyticalStorageTtl : Option Int := none
  defaultTtl : Option Int := none
  computedProperties : List ComputedProperty := []
  indexingPolicy : Option IndexingPolicy := none
  uniqueKeys : List UniqueKey := []

namespace Container

def type : String :=
  "Microsoft.DocumentDB/databaseAccounts/sqlDatabases/containers@" ++ apiVersion

/-- The container as a child of the given account and database. -/
def adopt (account database : Name) (serverless : Bool) (c : Container) : Container :=
  { c with account, database, serverless }

def partitionKeyMissing : ValidationError :=
  .missingField "partition_key" "for every container"

def rules (c : Container) : List Rule :=
  .forbid c.partitionKey.isNone partitionKeyMissing :: c.throughput.rules "container" c.serverless

def resourceProperty (c : Container) (key : PartitionKey) : Property :=
  .bag "resource"
    (.text "id" c.header.name.text ::
      (c.analyticalStorageTtl.map fun ttl => Property.int "analyticalStorageTtl" ttl).toList ++
      (if c.computedProperties.isEmpty then []
        else [.array "computedProperties" (c.computedProperties.map ComputedProperty.element)]) ++
      (c.defaultTtl.map fun ttl => Property.int "defaultTtl" ttl).toList ++
      (c.indexingPolicy.map IndexingPolicy.property).toList ++
      [key.property] ++
      (if c.uniqueKeys.isEmpty then []
        else [.bag "uniqueKeyPolicy"
          [.array "uniqueKeys" (c.uniqueKeys.map UniqueKey.element)]]))

def construct (c : Container) : Construction Unit := do
  match c.partitionKey with
  | none => throw (.validation c.header.name.text .validating partitionKeyMissing)
  | some key =>
    .add (.scalar "parent" c.database.reference)
    .add (.text "name" c.header.name.text)
    .add (.scalar "location" location)
    .add (.bag "properties" (c.throughput.options?.toList ++ [c.resourceProperty key]))

end Container

end BicepTemplates.Cosmos
