import BicepTemplates.Identifier

/-! # Listings of identifiers

What is derived from each of some seeds. Seeds do not affect each other, so two of them may show
the same identifier.
-/

namespace BicepTemplates

inductive ListingFormat where
  | json
  | yaml
  deriving DecidableEq, Repr

def ListingFormat.ofText? : String → Option ListingFormat
  | "json" => some json
  | "yaml" => some yaml
  | _ => none

structure ListingEntry where
  seed : String
  identifier : String
  guid : String
  deriving DecidableEq, Repr

namespace ListingEntry

def ofSeed (seed : String) : ListingEntry :=
  ⟨seed, BicepTemplates.identifier seed, BicepTemplates.guid seed⟩

def fields (e : ListingEntry) : List (String × String) :=
  [("seed", e.seed), ("identifier", e.identifier), ("guid", e.guid)]

end ListingEntry

end BicepTemplates
