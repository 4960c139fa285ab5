import Reshape.Codec.Base64
import Reshape.Codec.Identifier
import Reshape.Codec.Sha2
import Reshape.CommandLine.Basic
import Reshape.CommandLine.Options
import Reshape.Diagnostic.Basic
import Reshape.Diagnostic.Render
import Reshape.Expr.Basic
import Reshape.Expr.Cursor
import Reshape.Expr.Parser
import Reshape.Fault
import Reshape.Fields
import Reshape.File
import Reshape.Function.Arguments
import Reshape.Function.Basic
import Reshape.Function.Call
import Reshape.Function.Collection
import Reshape.Function.Conversion
import Reshape.Function.Encoding
import Reshape.Function.Failure
import Reshape.Function.Json
import Reshape.Function.Library
import Reshape.Function.Pattern
import Reshape.Function.Place
import Reshape.Function.Standard
import Reshape.Function.Text
import Reshape.Function.Time
import Reshape.Json.Basic
import Reshape.Json.Reader
import Reshape.Json.Writer
import Reshape.Main
import Reshape.Number.Binary
import Reshape.Number.Fit
import Reshape.Number.Layout
import Reshape.Number.Read
import Reshape.Number.Shortest
import Reshape.Operator
import Reshape.Path
import Reshape.Program.Basic
import Reshape.Program.Cache
import Reshape.Program.Resolve
import Reshape.Program.Run
import Reshape.Program.Session
import Reshape.Proofs.Addressing
import Reshape.Proofs.Arithmetic
import Reshape.Proofs.Binding
import Reshape.Proofs.Blame
import Reshape.Proofs.Building
import Reshape.Proofs.Bytes
import Reshape.Proofs.Caching
import Reshape.Proofs.Calendar
import Reshape.Proofs.CallSite
import Reshape.Proofs.Capture
import Reshape.Proofs.Clock
import Reshape.Proofs.Clues
import Reshape.Proofs.Compaction
import Reshape.Proofs.Complaints
import Reshape.Proofs.Composition
import Reshape.Proofs.Coupling
import Reshape.Proofs.Covering
import Reshape.Proofs.Document
import Reshape.Proofs.Edits
import Reshape.Proofs.Ending
import Reshape.Proofs.Excerpt
import Reshape.Proofs.Failure
import Reshape.Proofs.Fault
import Reshape.Proofs.Folding
import Reshape.Proofs.Following
import Reshape.Proofs.Footprint
import Reshape.Proofs.Forming
import Reshape.Proofs.Frame
import Reshape.Proofs.Gathering
import Reshape.Proofs.Grammar
import Reshape.Proofs.Indexing
import Reshape.Proofs.Internet
import Reshape.Proofs.Invalid
import Reshape.Proofs.Joining
import Reshape.Proofs.Layout
import Reshape.Proofs.Lexing
import Reshape.Proofs.Literal
import Reshape.Proofs.Making
import Reshape.Proofs.Nesting
import Reshape.Proofs.Obtaining
import Reshape.Proofs.Occurrence
import Reshape.Proofs.Parts
import Reshape.Proofs.PathText
import Reshape.Proofs.Place
import Reshape.Proofs.Precedence
import Reshape.Proofs.Presence
import Reshape.Proofs.Printing
import Reshape.Proofs.Reading
import Reshape.Proofs.Recovery
import Reshape.Proofs.Refolding
import Reshape.Proofs.Refusal
import Reshape.Proofs.Regions
import Reshape.Proofs.Relocation
import Reshape.Proofs.Removal
import Reshape.Proofs.Rendering
import Reshape.Proofs.Reports
import Reshape.Proofs.Rereading
import Reshape.Proofs.Resolution
import Reshape.Proofs.Root
import Reshape.Proofs.Rounding
import Reshape.Proofs.Run
import Reshape.Proofs.Scanning
import Reshape.Proofs.Seam
import Reshape.Proofs.Serializing
import Reshape.Proofs.Shift
import Reshape.Proofs.Sites
import Reshape.Proofs.Slicing
import Reshape.Proofs.Spelling
import Reshape.Proofs.Statements
import Reshape.Proofs.Steady
import Reshape.Proofs.Stepping
import Reshape.Proofs.Subtraction
import Reshape.Proofs.Symbols
import Reshape.Proofs.Taking
import Reshape.Proofs.Termination
import Reshape.Proofs.Tiling
import Reshape.Proofs.Transcript
import Reshape.Proofs.Turns
import Reshape.Proofs.Writability
import Reshape.Proofs.Writing
import Reshape.Regex.Basic
import Reshape.Regex.Bracket
import Reshape.Regex.Cursor
import Reshape.Regex.Escape
import Reshape.Regex.Meaning
import Reshape.Regex.Parser
import Reshape.Regex.Problem
import Reshape.Regex.Tree
import Reshape.Settings
import Reshape.Span
import Reshape.Text.Distance
import Reshape.Text.Quoted
import Reshape.Text.Search
import Reshape.Text.Trim
import Reshape.Text.Utf8
import Reshape.Time.Calendar
import Reshape.Time.Fields
import Reshape.Time.Internet
import Reshape.Time.Pattern.Basic
import Reshape.Time.Pattern.Reader
import Reshape.Time.Pattern.Writer
import Reshape.Time.Problem
import Reshape.Time.Scan
import Reshape.Time.Timestamp
import Reshape.Time.Zone.Basic
import Reshape.Time.Zone.Named
import Reshape.Time.Zone.Table
import Reshape.Token.Basic
import Reshape.Token.Lexer
import Reshape.Token.Scanner
import Reshape.Toml.Cursor
import Reshape.Toml.Document
import Reshape.Toml.Node
import Reshape.Toml.Number
import Reshape.Toml.Problem
import Reshape.Toml.Text
import Reshape.Unicode.BinaryTable
import Reshape.Unicode.Case
import Reshape.Unicode.CaseMap
import Reshape.Unicode.CaseTable
import Reshape.Unicode.CategoryTable
import Reshape.Unicode.CharSet
import Reshape.Unicode.Named
import Reshape.Unicode.Property
import Reshape.Unicode.PropertyTable
import Reshape.Unicode.ScriptTable
import Reshape.Unicode.ScriptUseTable
import Reshape.Unicode.Word
import Reshape.Value.Basic
import Reshape.Value.Json
import Reshape.Value.Place
import Reshape.Value.Text
