import EndpointStubs.Artifact.Builtin
import EndpointStubs.Artifact.Data
import EndpointStubs.Artifact.Override
import EndpointStubs.Clean
import EndpointStubs.CommandLine.Arguments
import EndpointStubs.CommandLine.Program
import EndpointStubs.CommandLine.Run
import EndpointStubs.Config.Basic
import EndpointStubs.Config.Load
import EndpointStubs.Decimal.Fixed
import EndpointStubs.Decimal.Shortest
import EndpointStubs.Declaration
import EndpointStubs.Document
import EndpointStubs.Emit.Emitter
import EndpointStubs.Emit.Error
import EndpointStubs.Emit.Layout
import EndpointStubs.EndpointModel
import EndpointStubs.Event
import EndpointStubs.FileTree.Basic
import EndpointStubs.FileTree.Change
import EndpointStubs.FileTree.Difference
import EndpointStubs.FileTree.Fault
import EndpointStubs.FileTree.Listing
import EndpointStubs.Json.Basic
import EndpointStubs.Json.Reader
import EndpointStubs.Json.Writer
import EndpointStubs.Log.Filter
import EndpointStubs.Log.Line
import EndpointStubs.Log.Pattern
import EndpointStubs.Log.Settings
import EndpointStubs.Manifest
import EndpointStubs.Marker
import EndpointStubs.Path
import EndpointStubs.Processor
import EndpointStubs.QualifiedName
import EndpointStubs.ResponseType
import EndpointStubs.Round
import EndpointStubs.Scan
import EndpointStubs.Session
import EndpointStubs.Source.Collect
import EndpointStubs.Source.Declarations
import EndpointStubs.Source.Markers
import EndpointStubs.Source.ModulePath
import EndpointStubs.Source.Tree
import EndpointStubs.Syntax.AngleList
import EndpointStubs.Syntax.Attributes
import EndpointStubs.Syntax.Cursor
import EndpointStubs.Syntax.Expressions
import EndpointStubs.Syntax.Generics
import EndpointStubs.Syntax.Items
import EndpointStubs.Syntax.Lexer
import EndpointStubs.Syntax.Operators
import EndpointStubs.Syntax.Patterns
import EndpointStubs.Syntax.Shape
import EndpointStubs.Syntax.SourceText
import EndpointStubs.Syntax.Statements
import EndpointStubs.Syntax.Token
import EndpointStubs.Syntax.Types
import EndpointStubs.Template.Filter.Arguments
import EndpointStubs.Template.Filter.ByName
import EndpointStubs.Template.Filter.Format
import EndpointStubs.Template.Filter.Lists
import EndpointStubs.Template.Filter.Names
import EndpointStubs.Template.Filter.Numbers
import EndpointStubs.Template.Filter.Test
import EndpointStubs.Template.Filter.Words
import EndpointStubs.Template.FreeNames
import EndpointStubs.Template.Literal
import EndpointStubs.Template.Progress
import EndpointStubs.Template.Reader.Basic
import EndpointStubs.Template.Reader.Expression
import EndpointStubs.Template.Reader.Statement
import EndpointStubs.Template.Render
import EndpointStubs.Template.Syntax
import EndpointStubs.Template.Token
import EndpointStubs.Template.Value.Basic
import EndpointStubs.Template.Value.Item
import EndpointStubs.Template.Value.Number
import EndpointStubs.Template.Value.Order
import EndpointStubs.Template.Value.Text
import EndpointStubs.Text.Blank
import EndpointStubs.Text.Case
import EndpointStubs.Text.Order
import EndpointStubs.Text.Pieces
import EndpointStubs.Text.Quoted
import EndpointStubs.Toml.Reader
import EndpointStubs.Toml.Strings
import EndpointStubs.Toml.Table
import EndpointStubs.Unicode.Alphanumeric
import EndpointStubs.Unicode.Casing
import EndpointStubs.Unicode.Identifier
import EndpointStubs.Unicode.LowerCase
import EndpointStubs.Unicode.Printable
import EndpointStubs.Unicode.Ranges
import EndpointStubs.Unicode.UpperCase
import EndpointStubs.Yaml.Cursor
import EndpointStubs.Yaml.Document
import EndpointStubs.Yaml.Lexer
import EndpointStubs.Yaml.Node
import EndpointStubs.Yaml.Scalar
import EndpointStubs.Yaml.Token
import EndpointStubs.Main
import EndpointStubs.Proofs.Text.Pieces
import EndpointStubs.Proofs.Path.Components
import EndpointStubs.Proofs.FileTree.Growth
import EndpointStubs.Proofs.Path.Derived
import EndpointStubs.Proofs.Path.Names
import EndpointStubs.Proofs.FileTree.Creation
import EndpointStubs.Proofs.FileTree.Refusal
import EndpointStubs.Proofs.FileTree.Directories
import EndpointStubs.Proofs.Session
import EndpointStubs.Proofs.Emit.Targets
import EndpointStubs.Proofs.Emit.Written
import EndpointStubs.Proofs.Emit.WriteOnce
import EndpointStubs.Proofs.Scan.ClosedForm
import EndpointStubs.Proofs.Round.NewFiles
import EndpointStubs.Proofs.FileTree.Reach
import EndpointStubs.Proofs.Round.Settings
import EndpointStubs.Proofs.Round.Collision
import EndpointStubs.Proofs.Clean.Removed
import EndpointStubs.Proofs.Clean.Undone
import EndpointStubs.Proofs.CommandLine.Idempotent
import EndpointStubs.Proofs.Artifact.Accepted
import EndpointStubs.Proofs.Emit.Confined
import EndpointStubs.Proofs.Artifact.Literals
import EndpointStubs.Proofs.Source.Sites
import EndpointStubs.Proofs.Round.InvalidName
import EndpointStubs.Proofs.Round.SourceText
import EndpointStubs.Proofs.Source.Scanned
import EndpointStubs.Proofs.Source.Rooted
import EndpointStubs.Proofs.Scan.Inserted
import EndpointStubs.Proofs.Round.Commute
import EndpointStubs.Proofs.Round.OncePerPackage
import EndpointStubs.Proofs.Round.Concatenated
import EndpointStubs.Proofs.Source.Gathered
import EndpointStubs.Proofs.CommandLine.Settings
import EndpointStubs.Proofs.CommandLine.Agreement
import EndpointStubs.Proofs.Config.Layers
import EndpointStubs.Proofs.CommandLine.Precedence
import EndpointStubs.Proofs.Manifest
import EndpointStubs.Proofs.Model.Blank
import EndpointStubs.Proofs.Clean.Halfway
import EndpointStubs.Proofs.Clean.Overlooked
import EndpointStubs.Proofs.Round.Notes
import EndpointStubs.Proofs.Source.Marked
import EndpointStubs.Proofs.Emit.Relocated
import EndpointStubs.Proofs.Emit.Apart
import EndpointStubs.Proofs.Text.Blank
import EndpointStubs.Proofs.ResponseType
import EndpointStubs.Proofs.Syntax.Compact
import EndpointStubs.Proofs.Syntax.Printed
import EndpointStubs.Proofs.Syntax.Taken
import EndpointStubs.Proofs.Syntax.TypeTokens
import EndpointStubs.Proofs.Syntax.TypeText
import EndpointStubs.Proofs.Syntax.ReturnTypes
import EndpointStubs.Proofs.Source.Returned
import EndpointStubs.Proofs.Source.Position
