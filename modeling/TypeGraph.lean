import TypeGraph.Arena
import TypeGraph.BuiltIn
import TypeGraph.Command.Account
import TypeGraph.Command.Arguments
import TypeGraph.Command.Log
import TypeGraph.Command.Run
import TypeGraph.Decimal.Shortest
import TypeGraph.Declaration
import TypeGraph.Declaration.Decode
import TypeGraph.Declaration.Edit
import TypeGraph.Declaration.Encode
import TypeGraph.Declaration.Stamp
import TypeGraph.Dictionary
import TypeGraph.Document.CoreScalar
import TypeGraph.Document.Problem
import TypeGraph.Document.Reading
import TypeGraph.Document.Record
import TypeGraph.Document.Shape
import TypeGraph.Document.Tag
import TypeGraph.Document.Tree
import TypeGraph.Document.Union
import TypeGraph.Document.Whole
import TypeGraph.Field
import TypeGraph.Finding
import TypeGraph.Identifier
import TypeGraph.Json
import TypeGraph.Json.Pretty
import TypeGraph.Json.Reader
import TypeGraph.Json.Token
import TypeGraph.Kind
import TypeGraph.Localization
import TypeGraph.Location
import TypeGraph.Main
import TypeGraph.Message
import TypeGraph.Model
import TypeGraph.Model.Load
import TypeGraph.NameIndex
import TypeGraph.Namespace
import TypeGraph.Numeral
import TypeGraph.Permissions
import TypeGraph.Pointer
import TypeGraph.Proofs.Abbreviation
import TypeGraph.Proofs.Acceptance
import TypeGraph.Proofs.AcceptedRelations
import TypeGraph.Proofs.Annotations
import TypeGraph.Proofs.Arena
import TypeGraph.Proofs.Blame
import TypeGraph.Proofs.Checks
import TypeGraph.Proofs.Construction
import TypeGraph.Proofs.Conventions
import TypeGraph.Proofs.DeclaredRelations
import TypeGraph.Proofs.Dictionary
import TypeGraph.Proofs.DottedPaths
import TypeGraph.Proofs.EncounterOrder
import TypeGraph.Proofs.Endpoints
import TypeGraph.Proofs.EnumValues
import TypeGraph.Proofs.Faults
import TypeGraph.Proofs.FieldGroups
import TypeGraph.Proofs.FieldRules
import TypeGraph.Proofs.Gates
import TypeGraph.Proofs.Grouping
import TypeGraph.Proofs.Harmless
import TypeGraph.Proofs.InversePairs
import TypeGraph.Proofs.Inverses
import TypeGraph.Proofs.LabelBundles
import TypeGraph.Proofs.LabelFallback
import TypeGraph.Proofs.Loading
import TypeGraph.Proofs.Lookup
import TypeGraph.Proofs.MaximalPairing
import TypeGraph.Proofs.Merging
import TypeGraph.Proofs.NamespaceChildren
import TypeGraph.Proofs.NamespaceNames
import TypeGraph.Proofs.NamespacePartition
import TypeGraph.Proofs.NamespaceWalk
import TypeGraph.Proofs.Namespaces
import TypeGraph.Proofs.Pairing
import TypeGraph.Proofs.PointerText
import TypeGraph.Proofs.Queries
import TypeGraph.Proofs.Reading
import TypeGraph.Proofs.Registry
import TypeGraph.Proofs.RelationOutline
import TypeGraph.Proofs.RepeatedFields
import TypeGraph.Proofs.Roles
import TypeGraph.Proofs.RoundTrip
import TypeGraph.Proofs.SnapshotClosure
import TypeGraph.Proofs.SourceOrder
import TypeGraph.Proofs.StampedPointers
import TypeGraph.Proofs.Stamping
import TypeGraph.Proofs.ViewRoundTrip
import TypeGraph.Proofs.Warnings
import TypeGraph.Proofs.WellFormed
import TypeGraph.Registry
import TypeGraph.Relation
import TypeGraph.Source
import TypeGraph.Text.CharTable
import TypeGraph.Text.Printable
import TypeGraph.Text.Quoted
import TypeGraph.Text.Space
import TypeGraph.Text.Split
import TypeGraph.Text.UpperCase
import TypeGraph.TypeDef
import TypeGraph.Validation
import TypeGraph.Validation.Enum
import TypeGraph.Validation.Field
import TypeGraph.Validation.Name
import TypeGraph.Validation.ObjectType
import TypeGraph.View
import TypeGraph.View.Decode
import TypeGraph.View.Encode
import TypeGraph.View.Query
import TypeGraph.Yaml.Alias
import TypeGraph.Yaml.Cursor
import TypeGraph.Yaml.Layout
import TypeGraph.Yaml.Node
import TypeGraph.Yaml.Reader
import TypeGraph.Yaml.Token
import TypeGraph.Yaml.Token.Block
import TypeGraph.Yaml.Token.Plain
import TypeGraph.Yaml.Token.Property
import TypeGraph.Yaml.Token.Quoted
