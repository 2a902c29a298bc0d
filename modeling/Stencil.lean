import Stencil.Cancellation
import Stencil.CommandLine.Arguments
import Stencil.CommandLine.Response
import Stencil.Comment
import Stencil.Compilation
import Stencil.Diagnostic
import Stencil.Directive
import Stencil.Discovery
import Stencil.Execution
import Stencil.FileTree
import Stencil.Generation
import Stencil.Json
import Stencil.Library
import Stencil.Log
import Stencil.Lua.Arguments
import Stencil.Lua.Builtin.Base
import Stencil.Lua.Builtin.Numbers
import Stencil.Lua.Builtin.Strings
import Stencil.Lua.Builtin.Tables
import Stencil.Lua.Environment
import Stencil.Lua.Format
import Stencil.Lua.Interpreter
import Stencil.Lua.Number
import Stencil.Lua.Operation
import Stencil.Lua.Parser
import Stencil.Lua.Pattern
import Stencil.Lua.Quoted
import Stencil.Lua.Scope
import Stencil.Lua.Store
import Stencil.Lua.Syntax
import Stencil.Lua.SyntaxFault
import Stencil.Lua.Table
import Stencil.Lua.Token
import Stencil.Lua.Value
import Stencil.Naming
import Stencil.Path
import Stencil.Program
import Stencil.Remap
import Stencil.Rendering
import Stencil.Resolution
import Stencil.Settings
import Stencil.Snippet
import Stencil.Source
import Stencil.Text
import Stencil.Text.CaseTable
import Stencil.Text.Decimal
import Stencil.Text.Digit
import Stencil.Text.LowerCase
import Stencil.Text.Utf8
import Stencil.Text.Width
import Stencil.Token
import Stencil.Toml.Document
import Stencil.Toml.Reader
import Stencil.Toml.Value
import Stencil.Main
import Stencil.Proofs.Token.EscapeRun
import Stencil.Proofs.Token.Segment
import Stencil.Proofs.Token.Printer
import Stencil.Proofs.Resolution.Course
import Stencil.Proofs.Resolution.Contribution
import Stencil.Proofs.Text.Lines
import Stencil.Proofs.Resolution.Once
import Stencil.Proofs.Resolution.Failure
import Stencil.Proofs.Resolution.Provenance
import Stencil.Proofs.Resolution.Chain
import Stencil.Proofs.Resolution.Import
import Stencil.Proofs.Program.Breaks
import Stencil.Proofs.Program.Layout
import Stencil.Proofs.Program.Report
import Stencil.Proofs.Program.Columns
import Stencil.Proofs.Lua.Quoted
import Stencil.Proofs.Lua.Lexing
import Stencil.Proofs.Lua.Parsing
import Stencil.Proofs.Literal.Lexemes
import Stencil.Proofs.Literal.Tree
import Stencil.Proofs.Lua.Linking
import Stencil.Proofs.Lua.Running
import Stencil.Proofs.Literal.Run
import Stencil.Proofs.Literal.Rendering
import Stencil.Proofs.Rendering.Ending
import Stencil.Proofs.Files.Node
import Stencil.Proofs.Files.Writing
import Stencil.Proofs.Files.Directory
import Stencil.Proofs.Naming.Distinct
import Stencil.Proofs.Generation.Course
import Stencil.Proofs.Generation.Cancelled
import Stencil.Proofs.Generation.Success
import Stencil.Proofs.Naming.Least
import Stencil.Proofs.Lua.Unquote
import Stencil.Proofs.Text.Blanks
import Stencil.Proofs.Text.Occurrences
import Stencil.Proofs.Text.Pieces
import Stencil.Proofs.Compilation.Span
import Stencil.Proofs.Program.Paths
import Stencil.Proofs.Program.Reading
import Stencil.Proofs.Resolution.Lookup
import Stencil.Proofs.Resolution.Ring
import Stencil.Proofs.Text.Comment
import Stencil.Proofs.Resolution.Comment
import Stencil.Proofs.Resolution.Duplicate
import Stencil.Proofs.Program.Fallback
import Stencil.Proofs.Directive.Grammar
import Stencil.Proofs.Directive.Shorthand
import Stencil.Proofs.Discovery.Offered
import Stencil.Proofs.Snippet.Range
import Stencil.Proofs.Rendering.Listing
import Stencil.Proofs.Program.Indent
import Stencil.Proofs.Rendering.Fault
import Stencil.Proofs.Files.Tidy
import Stencil.Proofs.Discovery.Order
import Stencil.Proofs.Discovery.Found
import Stencil.Proofs.Library.Requested
import Stencil.Proofs.Settings.Layers
