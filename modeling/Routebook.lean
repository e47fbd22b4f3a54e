import Routebook.CaselessMap
import Routebook.Catalog.Basic
import Routebook.Catalog.Decode
import Routebook.Catalog.Document
import Routebook.Catalog.Handler
import Routebook.Catalog.Initializer
import Routebook.Catalog.Inspect
import Routebook.Catalog.OfDocument
import Routebook.Catalog.Source
import Routebook.Catalog.Text
import Routebook.CommandLine.Arguments
import Routebook.CommandLine.Run
import Routebook.Compile.Basic
import Routebook.Compile.Entry
import Routebook.Compile.Error
import Routebook.Compile.Step
import Routebook.Compile.Verbs
import Routebook.Config.Basic
import Routebook.Config.Text
import Routebook.Datum
import Routebook.Decimal.Reader
import Routebook.Decimal.Shortest
import Routebook.Event
import Routebook.Failure
import Routebook.Json.Basic
import Routebook.Json.Reader
import Routebook.Json.Writer
import Routebook.Logging.Basic
import Routebook.Logging.Filter
import Routebook.Main
import Routebook.Proofs.Catalog.Initializers
import Routebook.Proofs.Compile.Lockstep
import Routebook.Proofs.Compile.Reference
import Routebook.Proofs.Compile.Transaction
import Routebook.Proofs.Table.Admission
import Routebook.Proofs.Table.History
import Routebook.Proofs.Table.WellFormed
import Routebook.Publish.Basic
import Routebook.Regex.Basic
import Routebook.Regex.Bracket
import Routebook.Regex.Cursor
import Routebook.Regex.Escape
import Routebook.Regex.Flags
import Routebook.Regex.Footprint
import Routebook.Regex.Parser
import Routebook.Route.Constraint
import Routebook.Route.Entry
import Routebook.Route.Inspect
import Routebook.Route.Pattern
import Routebook.Route.Value
import Routebook.Table.Basic
import Routebook.Table.Error
import Routebook.Table.Registry
import Routebook.Table.Route
import Routebook.Text.Ascii
import Routebook.Text.Blank
import Routebook.Text.Inspect
import Routebook.Text.Pieces
import Routebook.Unicode.Age
import Routebook.Unicode.Break
import Routebook.Unicode.CaseFolding
import Routebook.Unicode.Category
import Routebook.Unicode.CharSet
import Routebook.Unicode.Class
import Routebook.Unicode.Property
import Routebook.Unicode.Script
import Routebook.Unicode.ScriptExtension
import Routebook.Unicode.Table
import Routebook.Verb.Basic
import Routebook.Yaml.Cursor
import Routebook.Yaml.Node
import Routebook.Yaml.Scalar
import Routebook.Yaml.Token
import Routebook.Yaml.Token.Scalar
import Routebook.Yaml.Token.Scan
import Routebook.Yaml.Token.Tag
import Routebook.Yaml.Tree
import Routebook.Proofs.Route.Matching
import Routebook.Proofs.Table.Dispatch
import Routebook.Proofs.Compile.Enforcement
import Routebook.Proofs.Compile.InTurn
import Routebook.Proofs.Regex.Search
import Routebook.Proofs.Regex.Reading
import Routebook.Proofs.Regex.Anchored
import Routebook.Proofs.Table.Expressions
import Routebook.Proofs.Route.Notation
import Routebook.Proofs.Catalog.Grouping
import Routebook.Proofs.Catalog.Conversion
import Routebook.Proofs.Catalog.Loading
import Routebook.Proofs.Table.Filling
import Routebook.Proofs.Publish.Calls
import Routebook.Proofs.Publish.Publishers
import Routebook.Proofs.CaselessMap
import Routebook.Proofs.Catalog.Contributions
import Routebook.Proofs.Route.Grammar
import Routebook.Proofs.Route.Binding
import Routebook.Proofs.Table.Slashes
import Routebook.Proofs.Compile.Identity
import Routebook.Proofs.Compile.Validation
import Routebook.Proofs.Compile.Stages
import Routebook.Proofs.Compile.Reordering
import Routebook.Proofs.Compile.Offences
import Routebook.Proofs.Compile.VerbSources
import Routebook.Proofs.Compile.Names
import Routebook.Proofs.Catalog.Independence
import Routebook.Proofs.Json.Keys
import Routebook.Proofs.Catalog.KnownFields
import Routebook.Proofs.Catalog.PassedOver
import Routebook.Proofs.Catalog.UnknownFields
import Routebook.Proofs.CaselessMap.Dictionary
import Routebook.Proofs.Compile.Declared
import Routebook.Proofs.Compile.Accounting
import Routebook.Proofs.Compile.Sections
import Routebook.Proofs.Json.Layout
import Routebook.Proofs.CommandLine.Printing
import Routebook.Proofs.CommandLine.Agreement
