import BicepTemplates.Azure.Cosmos.Account
import BicepTemplates.Azure.Cosmos.Container
import BicepTemplates.Azure.Cosmos.DataAccess
import BicepTemplates.Azure.Cosmos.Database
import BicepTemplates.Azure.Cosmos.Indexing
import BicepTemplates.Azure.Cosmos.Settings
import BicepTemplates.Azure.Cosmos.Throughput
import BicepTemplates.Azure.ManagedIdentity
import BicepTemplates.Azure.MapsAccount
import BicepTemplates.Azure.RoleAssignment
import BicepTemplates.Azure.Vault
import BicepTemplates.Command.Arguments
import BicepTemplates.Command.Host
import BicepTemplates.Command.Run
import BicepTemplates.Command.Usage
import BicepTemplates.Digest.Hex
import BicepTemplates.Digest.Md5
import BicepTemplates.Digest.Sha1
import BicepTemplates.Digest.Word
import BicepTemplates.Document
import BicepTemplates.Double.Basic
import BicepTemplates.Double.Shortest
import BicepTemplates.Error
import BicepTemplates.Expression
import BicepTemplates.Expression.Interpolation
import BicepTemplates.Expression.Path
import BicepTemplates.File.Error
import BicepTemplates.File.Path
import BicepTemplates.File.Store
import BicepTemplates.Identifier
import BicepTemplates.Interface
import BicepTemplates.Layout
import BicepTemplates.Listing.Basic
import BicepTemplates.Listing.Text
import BicepTemplates.Main
import BicepTemplates.Manifest.Basic
import BicepTemplates.Manifest.Document
import BicepTemplates.Manifest.Error
import BicepTemplates.Manifest.Load
import BicepTemplates.Manifest.Mismatch
import BicepTemplates.Manifest.Reading
import BicepTemplates.Manifest.Template
import BicepTemplates.Name
import BicepTemplates.Proofs.Azure.Cosmos.Acceptance
import BicepTemplates.Proofs.Azure.Cosmos.Bodies
import BicepTemplates.Proofs.Azure.Cosmos.Completeness
import BicepTemplates.Proofs.Azure.Cosmos.Keys
import BicepTemplates.Proofs.Azure.Cosmos.Order
import BicepTemplates.Proofs.Azure.Cosmos.Ownership
import BicepTemplates.Proofs.Azure.Cosmos.References
import BicepTemplates.Proofs.Azure.Cosmos.Scopes
import BicepTemplates.Proofs.Azure.Cosmos.Throughput
import BicepTemplates.Proofs.Azure.DeployedName
import BicepTemplates.Proofs.Azure.RoleAssignment
import BicepTemplates.Proofs.Command.Rendering
import BicepTemplates.Proofs.Document.Blocks
import BicepTemplates.Proofs.Document.Outcome
import BicepTemplates.Proofs.Document.Outline
import BicepTemplates.Proofs.Document.Paragraphs
import BicepTemplates.Proofs.Document.Recovery
import BicepTemplates.Proofs.Document.References
import BicepTemplates.Proofs.Expression.Building
import BicepTemplates.Proofs.Expression.Literals
import BicepTemplates.Proofs.Expression.Opening
import BicepTemplates.Proofs.Expression.Paths
import BicepTemplates.Proofs.Expression.Reading
import BicepTemplates.Proofs.Expression.Templates
import BicepTemplates.Proofs.Expression.WellFormed
import BicepTemplates.Proofs.File.Store
import BicepTemplates.Proofs.Layout.Composition
import BicepTemplates.Proofs.Layout.Outline
import BicepTemplates.Proofs.Layout.Writing
import BicepTemplates.Proofs.Manifest.Addresses
import BicepTemplates.Proofs.Manifest.Calls
import BicepTemplates.Proofs.Manifest.Interpolation
import BicepTemplates.Proofs.Manifest.Mirroring
import BicepTemplates.Proofs.Manifest.Rendering
import BicepTemplates.Proofs.Manifest.Symbols
import BicepTemplates.Proofs.Manifest.Tags
import BicepTemplates.Proofs.Property.Entries
import BicepTemplates.Proofs.Property.Erasure
import BicepTemplates.Proofs.Property.Outline
import BicepTemplates.Proofs.Property.Writing
import BicepTemplates.Proofs.Registry.History
import BicepTemplates.Proofs.Resource.Construction
import BicepTemplates.Proofs.Resource.Existing
import BicepTemplates.Proofs.Resource.Hierarchy
import BicepTemplates.Proofs.Resource.Keys
import BicepTemplates.Proofs.Resource.Names
import BicepTemplates.Proofs.Resource.Registration
import BicepTemplates.Proofs.ScopePath
import BicepTemplates.Proofs.Text.Guid
import BicepTemplates.Proofs.Text.Reading
import BicepTemplates.Property
import BicepTemplates.Registry
import BicepTemplates.Resource.Basic
import BicepTemplates.Resource.Declaration
import BicepTemplates.Resource.Existing
import BicepTemplates.Resource.Hierarchy
import BicepTemplates.Resource.Kinds
import BicepTemplates.Resource.Rule
import BicepTemplates.ScopePath
import BicepTemplates.Text.Blank
import BicepTemplates.Text.Guid
import BicepTemplates.Text.Hidden
import BicepTemplates.Text.Identifier
import BicepTemplates.Text.Inspected
import BicepTemplates.Text.Json
import BicepTemplates.Text.LetterCase
import BicepTemplates.Text.Lowercase
import BicepTemplates.Text.Quoted
import BicepTemplates.Yaml.Character
import BicepTemplates.Yaml.Node
import BicepTemplates.Yaml.Node.Grammar
import BicepTemplates.Yaml.Resolution
import BicepTemplates.Yaml.Scalar
import BicepTemplates.Yaml.Token
import BicepTemplates.Yaml.Token.Block
import BicepTemplates.Yaml.Token.Lexer
import BicepTemplates.Yaml.Token.Plain
import BicepTemplates.Yaml.Token.Quoted
import BicepTemplates.Yaml.Token.Tag
import BicepTemplates.Yaml.Tree
import BicepTemplates.Yaml.Value
