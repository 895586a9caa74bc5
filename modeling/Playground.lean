import Playground.Clock.Basic
import Playground.Clock.Deadline
import Playground.Clock.Time
import Playground.Completion.Binding
import Playground.Completion.Chain
import Playground.Completion.Cursor
import Playground.Completion.Describe
import Playground.Completion.Distinct
import Playground.Completion.Resolve
import Playground.Completion.Suggest
import Playground.Config.Basic
import Playground.Decimal.Binary
import Playground.Decimal.Reading
import Playground.Decimal.Shortest
import Playground.Decimal.Writing
import Playground.Diagnostic.Basic
import Playground.Diagnostic.Fault
import Playground.Diagnostic.Mapper
import Playground.Diagnostic.Mapping
import Playground.Host.Capture
import Playground.Host.Control
import Playground.Host.Exception
import Playground.Host.Program
import Playground.Host.Value
import Playground.Json.Printer
import Playground.Json.Reader
import Playground.Json.Value
import Playground.Mode.Basic
import Playground.Mode.Body
import Playground.Mode.Program
import Playground.Mode.Script
import Playground.Proofs.Checks
import Playground.Proofs.Clock.Delay
import Playground.Proofs.Clock.Exact
import Playground.Proofs.Clock.Polling
import Playground.Proofs.Clock.Waiting
import Playground.Proofs.Completion.Cursor
import Playground.Proofs.Diagnostic.Attribution
import Playground.Proofs.Diagnostic.Faithful
import Playground.Proofs.Diagnostic.Mapper
import Playground.Proofs.Diagnostic.Mapping
import Playground.Proofs.Diagnostic.Within
import Playground.Proofs.Host.Capture
import Playground.Proofs.Host.Control
import Playground.Proofs.Host.Program
import Playground.Proofs.Json.Text
import Playground.Proofs.Mode.Program
import Playground.Proofs.Run.Agreement
import Playground.Proofs.Run.Breakdown
import Playground.Proofs.Run.Course
import Playground.Proofs.Run.Delay
import Playground.Proofs.Run.Diagnosis
import Playground.Proofs.Run.FileTree
import Playground.Proofs.Run.Files
import Playground.Proofs.Run.Isolation
import Playground.Proofs.Run.Planned
import Playground.Proofs.Run.Timing
import Playground.Proofs.Run.Verdict
import Playground.Proofs.Service.Refusal
import Playground.Proofs.Text.Blank
import Playground.Proofs.Text.LineTable
import Playground.Proofs.Text.Utf8
import Playground.Proofs.Toolchain.Adapter
import Playground.Proofs.Toolchain.Consistency
import Playground.Proofs.Toolchain.FrontEnd
import Playground.Proofs.Workspace.Acceptance
import Playground.Proofs.Workspace.Canonical
import Playground.Proofs.Workspace.FileName
import Playground.Proofs.Workspace.Layout
import Playground.Proofs.Workspace.Lookup
import Playground.Proofs.Workspace.Normal
import Playground.Proofs.Workspace.Tiling
import Playground.Proofs.Workspace.Using
import Playground.Reference.Basic
import Playground.Reference.Class.Bytes
import Playground.Reference.Class.Callable
import Playground.Reference.Class.Collection
import Playground.Reference.Class.Combination
import Playground.Reference.Class.Exception
import Playground.Reference.Class.Iterator
import Playground.Reference.Class.Number
import Playground.Reference.Class.Object
import Playground.Reference.Class.Session
import Playground.Reference.Class.Text
import Playground.Reference.Entry
import Playground.Reference.Library
import Playground.Reference.Module.Builtins
import Playground.Reference.Module.Fraction
import Playground.Reference.Module.Host
import Playground.Reference.Module.Iteration
import Playground.Reference.Module.Json
import Playground.Reference.Module.Keyword
import Playground.Reference.Module.Known
import Playground.Reference.Module.Math
import Playground.Reference.Module.Path
import Playground.Reference.Module.System
import Playground.Reference.Module.Text
import Playground.Reference.Operator
import Playground.Reference.Prelude
import Playground.Reference.Standard
import Playground.Run.FileTree
import Playground.Run.Handle
import Playground.Run.Hosted
import Playground.Run.Sandbox
import Playground.Run.Session
import Playground.Run.State
import Playground.Service.Basic
import Playground.Service.TimeoutHeader
import Playground.Source.Check.Basic
import Playground.Source.Check.Expression
import Playground.Source.Check.Pattern
import Playground.Source.Check.Statement
import Playground.Source.Definition
import Playground.Source.Fault
import Playground.Source.Fold
import Playground.Source.FrontEnd
import Playground.Source.Future
import Playground.Source.Grammar.Expression
import Playground.Source.Grammar.Mistake
import Playground.Source.Grammar.Parameter
import Playground.Source.Grammar.Pattern
import Playground.Source.Grammar.Rules
import Playground.Source.Grammar.Shape
import Playground.Source.Grammar.Statement
import Playground.Source.Grammar.Target
import Playground.Source.Keyword
import Playground.Source.Literal.Escape
import Playground.Source.Literal.Fold
import Playground.Source.Literal.Number
import Playground.Source.Literal.Shown
import Playground.Source.Misuse
import Playground.Source.Parse
import Playground.Source.Parser.Basic
import Playground.Source.Parser.Engine
import Playground.Source.Parser.Rule
import Playground.Source.Parser.Strings
import Playground.Source.Printer.Basic
import Playground.Source.Printer.Expression
import Playground.Source.Printer.Quotes
import Playground.Source.Scanner
import Playground.Source.Scope.Basic
import Playground.Source.Scope.Collect
import Playground.Source.Scope.Resolve
import Playground.Source.Token
import Playground.Source.Tree
import Playground.Text.Blank
import Playground.Text.Case
import Playground.Text.CharSet
import Playground.Text.Digit
import Playground.Text.Identifier
import Playground.Text.LineTable
import Playground.Text.Margin
import Playground.Text.Name.Letter
import Playground.Text.Name.Pictograph
import Playground.Text.Name.Symbol
import Playground.Text.Names
import Playground.Text.Number
import Playground.Text.Pieces
import Playground.Text.Printable
import Playground.Text.Quoted
import Playground.Text.Utf8
import Playground.Text.Word
import Playground.Toolchain.Adapter
import Playground.Toolchain.Basic
import Playground.Toolchain.FrontEnd
import Playground.Toolchain.Planned
import Playground.Workspace.Basic
import Playground.Workspace.FileName
import Playground.Workspace.Normalize
import Playground.Workspace.Refusal
import Playground.Workspace.Request
import Playground.Workspace.SourceMap
import Playground.Workspace.Using
import Playground.Proofs.Text.Lines
import Playground.Proofs.Toolchain.WarningHook
import Playground.Proofs.Completion.Chain
import Playground.Proofs.Completion.Joint
import Playground.Proofs.Completion.Reach
import Playground.Proofs.Text.Bytes
import Playground.Proofs.Completion.Links
import Playground.Proofs.Completion.Search
import Playground.Proofs.Completion.Items
import Playground.Proofs.Completion.Statements
import Playground.Proofs.Completion.Naming
import Playground.Proofs.Completion.Tidy
import Playground.Proofs.Completion.Suggestions
import Playground.Proofs.Completion.Inspection
import Playground.Proofs.Run.Confinement
import Playground.Proofs.Mode.Runnable
import Playground.Proofs.Clock.Samples
import Playground.Mode.Evaluation
import Playground.Proofs.Mode.Preservation
import Playground.Proofs.Decimal.Rounding
import Playground.Proofs.Text.Numeral
import Playground.Proofs.Service.TimeoutHeader
import Playground.Proofs.Clock.Timekeeping
