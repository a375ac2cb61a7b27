import Ambient.Collection.Basic
import Ambient.Collection.Scope
import Ambient.CommandLine.Arguments
import Ambient.Config.Basic
import Ambient.Config.Settings
import Ambient.Declaration.Basic
import Ambient.Declaration.Layout
import Ambient.Emission.Event
import Ambient.Emission.Members
import Ambient.Emission.Module
import Ambient.Emission.Options
import Ambient.Emission.Params
import Ambient.Emission.Statement
import Ambient.Files.Basic
import Ambient.Files.Tree
import Ambient.Json.Basic
import Ambient.Json.Numeral
import Ambient.Json.Reader
import Ambient.Json.Writer
import Ambient.Logging
import Ambient.Main
import Ambient.MemberFilter
import Ambient.Number.Double
import Ambient.Number.Shortest
import Ambient.Path
import Ambient.Proofs.Collection.Walk
import Ambient.Proofs.Emission.LeftOut
import Ambient.Proofs.Emission.Omission
import Ambient.Proofs.Emission.Pruning
import Ambient.Proofs.Emission.Result
import Ambient.Proofs.Lexical.Literal
import Ambient.Proofs.Lexical.Name
import Ambient.Proofs.Lexical.Numeral
import Ambient.Proofs.Lexical.Token
import Ambient.Proofs.Number.Shortest
import Ambient.Proofs.TypeGrammar.Basic
import Ambient.Proofs.TypeGrammar.Determined
import Ambient.Proofs.TypeGrammar.Form
import Ambient.Proofs.TypeGrammar.Unambiguous
import Ambient.Proofs.TypeText.Faithful
import Ambient.Proofs.TypeText.Form
import Ambient.Proofs.TypeText.Reading
import Ambient.Proofs.TypeText.Written
import Ambient.Regex.Basic
import Ambient.Regex.Bytes
import Ambient.Regex.CharSet
import Ambient.Regex.Extent
import Ambient.Regex.Reader
import Ambient.Regex.Simplified
import Ambient.Run.Inputs
import Ambient.Run.Module
import Ambient.Run.Outcome
import Ambient.Run.Report
import Ambient.Schema.Document
import Ambient.Schema.Nodes
import Ambient.Schema.Place
import Ambient.Schema.Read
import Ambient.Schema.ReadError
import Ambient.Schema.Shape
import Ambient.Syntax.Basic
import Ambient.Syntax.Pattern
import Ambient.Syntax.Statement
import Ambient.Syntax.Type
import Ambient.Text.Blank
import Ambient.Text.Escaped
import Ambient.Text.Lines
import Ambient.Text.Quoted
import Ambient.TypeText
import Ambient.Unicode.Age
import Ambient.Unicode.Boundary
import Ambient.Unicode.Category
import Ambient.Unicode.CodeSet
import Ambient.Unicode.Folding
import Ambient.Unicode.Latest
import Ambient.Unicode.Property
import Ambient.Unicode.Script
import Ambient.Proofs.Collection.Nesting
import Ambient.Proofs.Declaration.Parts
import Ambient.Proofs.Emission.Declared
import Ambient.Proofs.Emission.Document
import Ambient.Proofs.Run.Places
import Ambient.Proofs.Files.Growth
import Ambient.Proofs.Run.Outputs
import Ambient.Proofs.Layout.Lines
import Ambient.Proofs.Layout.Inline
import Ambient.Proofs.Layout.Parameters
import Ambient.Proofs.Layout.Declarations
import Ambient.Proofs.Layout.Indentation
import Ambient.Proofs.Collection.Groups
import Ambient.Proofs.Emission.Parameters
import Ambient.Proofs.Emission.WellFormed
import Ambient.Proofs.Emission.Quiet
import Ambient.Proofs.Emission.Complete
import Ambient.Proofs.Emission.Comments
import Ambient.Proofs.Collection.Once
import Ambient.Proofs.Files.Paths
import Ambient.Proofs.Files.Ways
import Ambient.Proofs.Run.Sources
import Ambient.Proofs.Run.Independence
import Ambient.Proofs.Json.Entries
import Ambient.Proofs.Schema.Holes
import Ambient.Proofs.Schema.Spots
import Ambient.Proofs.Schema.Documents
import Ambient.Proofs.Schema.Unmodelled
import Ambient.Proofs.TypeText.Unsupported
import Ambient.Proofs.Emission.Signatures
import Ambient.Proofs.Emission.Calls
import Ambient.Proofs.Layout.Optional
import Ambient.Proofs.Layout.Destructured
import Ambient.Proofs.Emission.ParamLists
import Ambient.Proofs.Emission.BoundNames
import Ambient.Proofs.Config.Nested
import Ambient.Proofs.Schema.Fields
import Ambient.Proofs.Schema.OtherKeys
import Ambient.Proofs.Json.Nulls
import Ambient.Proofs.Schema.Nulls
import Ambient.Proofs.Lexical.Unescaped
import Ambient.Proofs.Text.Within
import Ambient.Proofs.Emission.Ingredients
import Ambient.Proofs.Emission.Quoted
import Ambient.Proofs.Run.Names
import Ambient.Proofs.Files.Order
import Ambient.Proofs.Files.Listing
import Ambient.Proofs.Run.Discovery
import Ambient.Proofs.Emission.WholeLists
import Ambient.Proofs.Lexical.Quote
import Ambient.Proofs.Layout.Levels
import Ambient.Proofs.Logging.Levels
import Ambient.Proofs.Text.Trimmed
import Ambient.Proofs.Logging.Directives
