import BicepTemplates.Property

/-! # Keys and indexes of a container -/

namespace BicepTemplates.Cosmos

/-- An array of paths. -/
def pathsArray (paths : List String) : Property :=
  .array "paths" (paths.map .text)

/-- A single path is hashed, several paths form a hierarchical key. -/
structure PartitionKey where
  paths : List String
  deriving DecidableEq, Repr

def PartitionKey.property (k : PartitionKey) : Property :=
  .bag "partitionKey"
    ((if k.paths.length = 1 then [.text "kind" "Hash"]
      else [.text "kind" "MultiHash", .int "version" 2]) ++ [pathsArray k.paths])

/-- Paths whose values together must be unique within a logical partition. -/
structure UniqueKey where
  paths : List String
  deriving DecidableEq, Repr

def UniqueKey.element (k : UniqueKey) : Element :=
  .bag [pathsArray k.paths]

structure ComputedProperty where
  name : String
  query : String
  deriving DecidableEq, Repr

def ComputedProperty.element (p : ComputedProperty) : Element :=
  .bag [.text "name" p.name, .text "query" p.query]

inductive IndexingMode where
  | consistent
  | lazy
  | none
  deriving DecidableEq, Repr

def IndexingMode.text : IndexingMode → String
  | consistent => "consistent"
  | lazy => "lazy"
  | none => "none"

inductive SortOrder where
  | ascending
  | descending
  deriving DecidableEq, Repr

def SortOrder.text : SortOrder → String
  | ascending => "ascending"
  | descending => "descending"

inductive IndexDataType where
  | lineString
  | multiPolygon
  | number
  | point
  | polygon
  | string
  deriving DecidableEq, Repr

def IndexDataType.text : IndexDataType → String
  | lineString => "LineString"
  | multiPolygon => "MultiPolygon"
  | number => "Number"
  | point => "Point"
  | polygon => "Polygon"
  | string => "String"

inductive IndexKind where
  | hash
  | range
  | spatial
  deriving DecidableEq, Repr

def IndexKind.text : IndexKind → String
  | hash => "Hash"
  | range => "Range"
  | spatial => "Spatial"

structure Index where
  dataType : Option IndexDataType := none
  kind : Option IndexKind := none
  precision : Option Int := none
  deriving DecidableEq, Repr

def Index.element (i : Index) : Element :=
  .bag ((i.dataType.map fun t => Property.text "dataType" t.text).toList ++
    (i.kind.map fun k => Property.text "kind" k.text).toList ++
    (i.precision.map fun p => Property.int "precision" p).toList)

structure IncludedPath where
  path : String
  indexes : List Index := []
  deriving DecidableEq, Repr

def IncludedPath.element (p : IncludedPath) : Element :=
  .bag (.text "path" p.path ::
    if p.indexes.isEmpty then [] else [.array "indexes" (p.indexes.map Index.element)])

/-- The paths of a composite index, in index order. -/
structure CompositeIndex where
  paths : List (String × SortOrder)
  deriving DecidableEq, Repr

def CompositeIndex.element (i : CompositeIndex) : Element :=
  .bag [.array "paths" (i.paths.map fun (path, order) =>
    .bag [.text "path" path, .text "order" order.text])]

structure IndexingPolicy where
  mode : IndexingMode := .consistent
  automatic : Bool := true
  compositeIndexes : List CompositeIndex := []
  includedPaths : List IncludedPath := []
  excludedPaths : List String := []
  deriving DecidableEq, Repr

def IndexingPolicy.property (p : IndexingPolicy) : Property :=
  .bag "indexingPolicy"
    ([.text "indexingMode" p.mode.text, .bool "automatic" p.automatic] ++
      (if p.compositeIndexes.isEmpty then []
        else [.array "compositeIndexes" (p.compositeIndexes.map CompositeIndex.element)]) ++
      [.array "excludedPaths" (p.excludedPaths.map fun path => .bag [.text "path" path]),
        .array "includedPaths" (p.includedPaths.map IncludedPath.element)])

end BicepTemplates.Cosmos
