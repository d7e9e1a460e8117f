import BicepTemplates.Azure.Cosmos.Container

/-! # Databases

A database belongs to an account and owns its containers. It hands the symbol of the account and
the serverless setting down to them. Its name is its symbol and its id.
-/

namespace BicepTemplates.Cosmos

structure Database where
  header : Header
  account : Name
  serverless : Bool
  containers : List Container := []
  throughput : Throughput := {}

namespace Database

def type : String :=
  "Microsoft.DocumentDB/databaseAccounts/sqlDatabases@" ++ apiVersion

def setAccount (account : Name) (d : Database) : Database :=
  { d with account, containers := d.containers.map fun c => { c with account } }

def setServerless (serverless : Bool) (d : Database) : Database :=
  { d with serverless, containers := d.containers.map fun c => { c with serverless } }

/-- A container for this database, not added to it yet. -/
def newContainer (name : String) (d : Database) : Except NameError Container := do
  return {
    header := { name := ← Name.ofString name, type := Container.type }
    account := d.account
    database := d.header.name
    serverless := d.serverless }

/-- The container goes behind the others and takes over what this database prescribes. -/
def addContainer (c : Container) (d : Database) : Database :=
  { d with containers := d.containers ++ [c.adopt d.account d.header.name d.serverless] }

def rules (d : Database) : List Rule :=
  d.throughput.rules "database" d.serverless

def construct (d : Database) : Construction Unit := do
  .add (.scalar "parent" d.account.reference)
  .add (.text "name" d.header.name.text)
  .add (.scalar "location" location)
  .add (.bag "properties"
    (d.throughput.options?.toList ++ [.bag "resource" [.text "id" d.header.name.text]]))

end Database

end BicepTemplates.Cosmos
