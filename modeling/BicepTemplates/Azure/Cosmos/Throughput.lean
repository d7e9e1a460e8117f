import BicepTemplates.Property
import BicepTemplates.Resource.Rule

/-! # Throughput

Request units of a database or a container: a fixed amount or a maximum to scale up to. A
serverless account takes neither, any other at most one of them.
-/

namespace BicepTemplates.Cosmos

/-- The version of the service that all of its resources are declared for. -/
def apiVersion : String := "2023-11-15"

structure Throughput where
  manual : Option Int := none
  autoscaleMax : Option Int := none
  deriving DecidableEq, Repr

namespace Throughput

def rules (t : Throughput) (kind : String) (serverless : Bool) : List Rule :=
  let manual := t.manual.isSome
  let autoscale := t.autoscaleMax.isSome
  [.forbid (serverless && (manual || autoscale))
      (.unsupported s!"throughput cannot be set on a {kind} of a serverless account"),
    .forbid (!serverless && manual && autoscale)
      (.mutuallyExclusive "throughput" "autoscale_max_throughput")]

/-- The maximum to scale to comes before a fixed amount. -/
def options? (t : Throughput) : Option Property :=
  match t.autoscaleMax, t.manual with
  | some max, _ =>
    some (.bag "options" [.bag "autoscaleSettings" [.int "maxThroughput" max]])
  | none, some amount => some (.bag "options" [.int "throughput" amount])
  | none, none => none

end Throughput

end BicepTemplates.Cosmos
