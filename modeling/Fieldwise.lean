import Fieldwise.Application
import Fieldwise.Calendar
import Fieldwise.CommandLine.Argument
import Fieldwise.CommandLine.Help
import Fieldwise.CommandLine.Request
import Fieldwise.CommandLine.Run
import Fieldwise.Correspondence
import Fieldwise.Datum
import Fieldwise.Declared
import Fieldwise.Extraction
import Fieldwise.Files.Path
import Fieldwise.Files.Workspace
import Fieldwise.Json
import Fieldwise.Loading
import Fieldwise.Log
import Fieldwise.Main
import Fieldwise.Manifest
import Fieldwise.MatchKind
import Fieldwise.Naming
import Fieldwise.Number.Arithmetic
import Fieldwise.Number.Binary64
import Fieldwise.Number.Shortest
import Fieldwise.Number.Whole
import Fieldwise.Operation.Basic
import Fieldwise.Operation.Document
import Fieldwise.Proofs.Application.Assignments
import Fieldwise.Proofs.Application.LastWrite
import Fieldwise.Proofs.Application.Moves
import Fieldwise.Proofs.Application.Presence
import Fieldwise.Proofs.Application.ThereAndBack
import Fieldwise.Proofs.KeyedLists
import Fieldwise.Proofs.Rendering.Agreement
import Fieldwise.Proofs.Rendering.Bodies
import Fieldwise.Proofs.Rendering.FunctionNames
import Fieldwise.Proofs.Rendering.LineSemantics
import Fieldwise.Proofs.Rendering.Modules
import Fieldwise.Proofs.Rendering.Spelling
import Fieldwise.Proofs.Schema.Extraction
import Fieldwise.Proofs.Schema.Manifest
import Fieldwise.Proofs.Schema.Markers
import Fieldwise.Proofs.Schema.Names
import Fieldwise.Proofs.Scope.Emission
import Fieldwise.Proofs.Scope.Locality
import Fieldwise.Proofs.Scope.Resolution
import Fieldwise.Proofs.Type.Declaration
import Fieldwise.Proofs.Type.Derivation
import Fieldwise.Proofs.Type.Grammar
import Fieldwise.Proofs.Type.Markers
import Fieldwise.Proofs.Type.RoundTrip
import Fieldwise.Proofs.Type.Scanning
import Fieldwise.Proofs.Type.Word
import Fieldwise.Proofs.Validation
import Fieldwise.Rendering
import Fieldwise.Report
import Fieldwise.Schema.Basic
import Fieldwise.Schema.Document
import Fieldwise.Schema.Index
import Fieldwise.Scope
import Fieldwise.Settings
import Fieldwise.Settings.Files
import Fieldwise.Settings.Layer
import Fieldwise.Shape
import Fieldwise.Source.Expression
import Fieldwise.Source.Lexeme
import Fieldwise.Source.Literal
import Fieldwise.Source.Module
import Fieldwise.Source.Pattern
import Fieldwise.Source.Printer
import Fieldwise.Source.Reader
import Fieldwise.Source.Template
import Fieldwise.Source.Tree
import Fieldwise.Text.Base64
import Fieldwise.Text.Blank
import Fieldwise.Text.CodeRanges
import Fieldwise.Text.Compatibility
import Fieldwise.Text.Digit
import Fieldwise.Text.Identifier
import Fieldwise.Text.Lowercase
import Fieldwise.Text.Printable
import Fieldwise.Text.Quoted
import Fieldwise.Text.Utf8
import Fieldwise.Text.Width
import Fieldwise.Toml.Document
import Fieldwise.Toml.Scalar
import Fieldwise.Toml.Tables
import Fieldwise.Type.Basic
import Fieldwise.Type.Document
import Fieldwise.Type.Reader
import Fieldwise.Type.Token
import Fieldwise.Validation
import Fieldwise.Yaml.Cursor
import Fieldwise.Yaml.Document
import Fieldwise.Yaml.Literal
import Fieldwise.Yaml.Node
import Fieldwise.Yaml.Scalar
import Fieldwise.Yaml.Scan
import Fieldwise.Yaml.Tag
import Fieldwise.Yaml.Token
import Fieldwise.Yaml.Writer
import Fieldwise.Proofs.Scope.Equivalence
import Fieldwise.Proofs.Settings.Layers
import Fieldwise.Proofs.Settings.Precedence
import Fieldwise.Proofs.Type.Fragments
import Fieldwise.Proofs.Type.OptionalTexts
import Fieldwise.Proofs.Comparison
import Fieldwise.Proofs.Schema.Respelled
import Fieldwise.Proofs.Inheritance.Linearization
import Fieldwise.Proofs.Inheritance.Fields
import Fieldwise.Proofs.LastOccurrences
import Fieldwise.Proofs.Inheritance.Search
import Fieldwise.Proofs.Inheritance.Order
import Fieldwise.Proofs.Inheritance.Defaults
import Fieldwise.Proofs.Schema.Quotation
import Fieldwise.Proofs.Settings.Malformed
import Fieldwise.Proofs.Rendering.Legality
import Fieldwise.Proofs.Rendering.Shadowing
import Fieldwise.Proofs.Schema.Containment
import Fieldwise.Proofs.Text.Utf8
import Fieldwise.Proofs.Loading.Containment
import Fieldwise.Proofs.Loading.JsonNumbers
import Fieldwise.Proofs.Loading.YamlNodes
import Fieldwise.Proofs.Loading.YamlValues
import Fieldwise.Proofs.Loading.YamlLiterals
import Fieldwise.Proofs.Loading.YamlScalars
import Fieldwise.Proofs.Loading.YamlTokens
import Fieldwise.Proofs.FirstRepeats
import Fieldwise.Proofs.Scope.Faults
import Fieldwise.Proofs.Reports
import Fieldwise.Proofs.Rendering.Contents
import Fieldwise.Proofs.Schema.Pruned
import Fieldwise.Proofs.CommandLine.Failures
import Fieldwise.Proofs.CommandLine.Isolation
import Fieldwise.Proofs.Inheritance.Selection
import Fieldwise.Proofs.Naming
import Fieldwise.Proofs.Type.Layout
import Fieldwise.Proofs.Scope.Extracted
import Fieldwise.Proofs.Settings.Reachable
