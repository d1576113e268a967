import SchemaLens.Main
import SchemaLens.Proofs.Data.OrderedMap
import SchemaLens.Proofs.Data.Regrouping
import SchemaLens.Proofs.Data.StableSort
import SchemaLens.Proofs.Query.Values
import SchemaLens.Proofs.Query.Reading
import SchemaLens.Proofs.Query.InputOrder
import SchemaLens.Proofs.Query.UnrelatedKeys
import SchemaLens.Proofs.Query.Conditions
import SchemaLens.Proofs.Query.Invariant
import SchemaLens.Proofs.Query.NarrowKinds
import SchemaLens.Proofs.Query.EntryOrder
import SchemaLens.Proofs.Query.FilterKey
import SchemaLens.Proofs.Query.WellFormed
import SchemaLens.Proofs.Query.FormEncoding
import SchemaLens.Proofs.Query.Rendering
import SchemaLens.Proofs.Query.NamedField
import SchemaLens.Proofs.Query.RepeatedFields
import SchemaLens.Proofs.Query.ProjectionValue
import SchemaLens.Proofs.Query.RoundTrip
import SchemaLens.Proofs.Schema.ForeignKey
import SchemaLens.Proofs.Schema.Constraint
import SchemaLens.Proofs.Schema.RowOrder
import SchemaLens.Proofs.Schema.CompositeKey
import SchemaLens.Proofs.Schema.Reflection
import SchemaLens.Proofs.Schema.TableViews
import SchemaLens.Proofs.Schema.FieldNames
import SchemaLens.Proofs.Text.Utf8
import SchemaLens.Proofs.Text.WhiteSpace
import SchemaLens.Proofs.Naming.CapitalCase
import SchemaLens.Proofs.Naming.Segments
import SchemaLens.Proofs.Naming.FieldType
import SchemaLens.Proofs.Schema.ShadowedColumns
import SchemaLens.Proofs.Json.DataModel
import SchemaLens.Query.Pattern
import SchemaLens.Proofs.Text.Pattern
import SchemaLens.Proofs.Query.OrderPattern
import SchemaLens.Proofs.Query.KeyPattern
import SchemaLens.Proofs.Query.OrderItems
import SchemaLens.Query.Numeral
import SchemaLens.Proofs.Query.LastFlag
import SchemaLens.Proofs.Query.FlagOrder
import SchemaLens.Proofs.Query.JoinedQueries
import SchemaLens.Proofs.Query.Multimap
import SchemaLens.Settings.Expansion
import SchemaLens.Proofs.Data.Traversal
import SchemaLens.Proofs.Settings.TemplateScan
import SchemaLens.Proofs.Settings.Expansion
import SchemaLens.Proofs.Settings.UnclosedReference
import SchemaLens.Proofs.Settings.Target
