import BicepTemplates.Listing.Basic
import BicepTemplates.Text.Json
import BicepTemplates.Yaml.Scalar

/-! # Text of listings -/

namespace BicepTemplates.ListingEntry

def jsonField (field : String × String) : String :=
  s!"    {Json.string field.1}: {Json.string field.2}"

def json (e : ListingEntry) : String :=
  "  \x7b\n" ++ ",\n".intercalate (e.fields.map jsonField) ++ "\n  \x7d"

/-- Lines of a scalar stand deeper than the fields. -/
def yamlField (field : String × String) : String :=
  field.1 ++ ": " ++ String.ofList (Yaml.Scalar.line (List.replicate 4 ' ') field.2)

def yaml (e : ListingEntry) : String :=
  "- " ++ "  ".intercalate (e.fields.map yamlField)

end BicepTemplates.ListingEntry

namespace BicepTemplates

/-- The listing of some seeds in the order they are given. -/
def ListingFormat.text (format : ListingFormat) (seeds : List String) : String :=
  let entries := seeds.map ListingEntry.ofSeed
  match format with
  | .json => "[\n" ++ ",\n".intercalate (entries.map ListingEntry.json) ++ "\n]\n"
  | .yaml => "".intercalate (entries.map ListingEntry.yaml)

end BicepTemplates
