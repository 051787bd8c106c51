import ApiModel.Api.Basic
import ApiModel.Api.Parameter
import ApiModel.Api.Response
import ApiModel.Calendar
import ApiModel.Check.Basic
import ApiModel.Check.Issue
import ApiModel.CommandLine.Arguments
import ApiModel.CommandLine.Run
import ApiModel.Declaration.Basic
import ApiModel.Declaration.Order
import ApiModel.Document.Container
import ApiModel.Document.Declarations
import ApiModel.Document.Operations
import ApiModel.Document.Parameters
import ApiModel.Document.Read
import ApiModel.Document.RequestBody
import ApiModel.Document.Responses
import ApiModel.Document.Version
import ApiModel.Failure
import ApiModel.Fault
import ApiModel.Files
import ApiModel.Json.Read
import ApiModel.Json.Token
import ApiModel.Json.Write
import ApiModel.Keyed
import ApiModel.Main
import ApiModel.Number.Decimal
import ApiModel.Number.Double
import ApiModel.Output.Cells
import ApiModel.Output.Console
import ApiModel.Output.Emoji
import ApiModel.Output.EmojiNames
import ApiModel.Output.Markup
import ApiModel.Output.Printer
import ApiModel.Output.Table
import ApiModel.Proofs.CommandLine.Complaints
import ApiModel.Proofs.CommandLine.Failing
import ApiModel.Proofs.CommandLine.Options
import ApiModel.Proofs.CommandLine.Redirect
import ApiModel.Proofs.CommandLine.Run
import ApiModel.Proofs.Complaint
import ApiModel.Proofs.Declaration.Circle
import ApiModel.Proofs.Declaration.DepthFirst
import ApiModel.Proofs.Declaration.Graph
import ApiModel.Proofs.Declaration.Order
import ApiModel.Proofs.Declaration.Renaming
import ApiModel.Proofs.Declaration.Roots
import ApiModel.Proofs.Declaration.Run
import ApiModel.Proofs.Declaration.Stability
import ApiModel.Proofs.Document.Answers
import ApiModel.Proofs.Document.Complaining
import ApiModel.Proofs.Document.Composition
import ApiModel.Proofs.Document.Failing
import ApiModel.Proofs.Document.Fitting
import ApiModel.Proofs.Document.Independence
import ApiModel.Proofs.Document.Inside
import ApiModel.Proofs.Document.Links
import ApiModel.Proofs.Document.Locations
import ApiModel.Proofs.Document.MediaTypes
import ApiModel.Proofs.Document.Moving
import ApiModel.Proofs.Document.Operations
import ApiModel.Proofs.Document.Parameters
import ApiModel.Proofs.Document.Part
import ApiModel.Proofs.Document.Place
import ApiModel.Proofs.Document.Responses
import ApiModel.Proofs.Document.Settings
import ApiModel.Proofs.Document.Sharing
import ApiModel.Proofs.Document.Sites
import ApiModel.Proofs.Document.Types
import ApiModel.Proofs.Files
import ApiModel.Proofs.Json.LineEnds
import ApiModel.Proofs.Json.Read
import ApiModel.Proofs.Json.Refusal
import ApiModel.Proofs.Keyed
import ApiModel.Proofs.Reference.Agreement
import ApiModel.Proofs.Reference.Chain
import ApiModel.Proofs.Reference.Internal
import ApiModel.Proofs.Reference.Path
import ApiModel.Proofs.Reference.Pointer
import ApiModel.Proofs.Reference.RoundTrip
import ApiModel.Proofs.Reference.Rounds
import ApiModel.Proofs.Reference.Search
import ApiModel.Proofs.Schema.Dependencies
import ApiModel.Proofs.Schema.Describable
import ApiModel.Proofs.Schema.Enumeration
import ApiModel.Proofs.Schema.Events
import ApiModel.Proofs.Schema.Fitting
import ApiModel.Proofs.Schema.Flattening
import ApiModel.Proofs.Schema.Grammar
import ApiModel.Proofs.Schema.Keywords
import ApiModel.Proofs.Schema.Parts
import ApiModel.Proofs.Schema.Rewrite
import ApiModel.Proofs.Schema.Type
import ApiModel.Proofs.Settings.Layers
import ApiModel.Proofs.Source.Causes
import ApiModel.Proofs.Source.Json
import ApiModel.Proofs.Source.Load
import ApiModel.Proofs.Source.Stops
import ApiModel.Proofs.Text.Integer
import ApiModel.Proofs.Text.Newline
import ApiModel.Proofs.Trace
import ApiModel.Proofs.Type.Links
import ApiModel.Proofs.Type.Merging
import ApiModel.Proofs.Type.ReadBack
import ApiModel.Proofs.Type.Reading
import ApiModel.Proofs.Value.Access
import ApiModel.Proofs.Value.WellFormed
import ApiModel.Proofs.Yaml.Composing
import ApiModel.Proofs.Yaml.Cutting
import ApiModel.Proofs.Yaml.Forward
import ApiModel.Proofs.Yaml.Misfit
import ApiModel.Proofs.Yaml.Scalar
import ApiModel.Reference.Internal
import ApiModel.Reference.Name
import ApiModel.Reference.Pointer
import ApiModel.Schema.Shape
import ApiModel.Schema.Type
import ApiModel.Settings.Basic
import ApiModel.Settings.Layers
import ApiModel.Source.Content
import ApiModel.Source.Load
import ApiModel.Source.MediaType
import ApiModel.Surroundings
import ApiModel.Text.Blank
import ApiModel.Text.Case
import ApiModel.Text.Charset
import ApiModel.Text.Digit
import ApiModel.Text.Integer
import ApiModel.Text.Newline
import ApiModel.Text.Pieces
import ApiModel.Text.Printable
import ApiModel.Text.Quoted
import ApiModel.Text.SingleBytes
import ApiModel.Trace
import ApiModel.Type.Basic
import ApiModel.Type.Check
import ApiModel.Type.Write
import ApiModel.Value.Access
import ApiModel.Value.Basic
import ApiModel.Value.Display
import ApiModel.Value.Entries
import ApiModel.Yaml.Cursor
import ApiModel.Yaml.Document
import ApiModel.Yaml.Graph
import ApiModel.Yaml.Lexer
import ApiModel.Yaml.Literal
import ApiModel.Yaml.Meaning
import ApiModel.Yaml.Merge
import ApiModel.Yaml.Read
import ApiModel.Yaml.Scalar
import ApiModel.Yaml.Tag
import ApiModel.Yaml.Token
