import ErrorTrail.Command
import ErrorTrail.Datum
import ErrorTrail.Decimal.Bits
import ErrorTrail.Decimal.Shortest
import ErrorTrail.Exchange.Datum
import ErrorTrail.Exchange.Error
import ErrorTrail.Exchange.Tree
import ErrorTrail.Exchange.Value
import ErrorTrail.Exports
import ErrorTrail.Folder
import ErrorTrail.Json
import ErrorTrail.Location
import ErrorTrail.Log
import ErrorTrail.Main
import ErrorTrail.Path
import ErrorTrail.Program.Annotate
import ErrorTrail.Program.Arithmetic
import ErrorTrail.Program.Call
import ErrorTrail.Program.Classes
import ErrorTrail.Program.Construct
import ErrorTrail.Program.Copy
import ErrorTrail.Program.Coroutine
import ErrorTrail.Program.Definition
import ErrorTrail.Program.Display
import ErrorTrail.Program.Envelope
import ErrorTrail.Program.Equality
import ErrorTrail.Program.Evaluator
import ErrorTrail.Program.Expression
import ErrorTrail.Program.Format
import ErrorTrail.Program.Generator
import ErrorTrail.Program.Iteration
import ErrorTrail.Program.Kind
import ErrorTrail.Program.Machine
import ErrorTrail.Program.Matching
import ErrorTrail.Program.Member
import ErrorTrail.Program.Native
import ErrorTrail.Program.Native.Arguments
import ErrorTrail.Program.Native.Basic
import ErrorTrail.Program.Native.Collection
import ErrorTrail.Program.Native.Library
import ErrorTrail.Program.Native.Text
import ErrorTrail.Program.Numeric
import ErrorTrail.Program.Outcome
import ErrorTrail.Program.Parameters
import ErrorTrail.Program.Session
import ErrorTrail.Program.Statement
import ErrorTrail.Program.Subscript
import ErrorTrail.Program.Target
import ErrorTrail.Program.Truth
import ErrorTrail.Program.Value
import ErrorTrail.Program.Variables
import ErrorTrail.Program.Vocabulary
import ErrorTrail.Proofs.Path.Display
import ErrorTrail.Proofs.Path.Resolution
import ErrorTrail.Proofs.Program.Annotation
import ErrorTrail.Proofs.Program.Capability
import ErrorTrail.Proofs.Program.Chain
import ErrorTrail.Proofs.Program.Closure
import ErrorTrail.Proofs.Program.Collecting
import ErrorTrail.Proofs.Program.Envelope.Class
import ErrorTrail.Proofs.Program.Envelope.Object
import ErrorTrail.Proofs.Program.Envelope.Reported
import ErrorTrail.Proofs.Program.Envelope.Run
import ErrorTrail.Proofs.Program.Envelope.Views
import ErrorTrail.Proofs.Program.Hosting
import ErrorTrail.Proofs.Program.Items
import ErrorTrail.Proofs.Program.Library
import ErrorTrail.Proofs.Program.Member
import ErrorTrail.Proofs.Program.Parts
import ErrorTrail.Proofs.Program.Plan
import ErrorTrail.Proofs.Program.Rewriting
import ErrorTrail.Proofs.Program.Run
import ErrorTrail.Proofs.Program.Sequencing
import ErrorTrail.Proofs.Program.Site
import ErrorTrail.Proofs.Program.Trace
import ErrorTrail.Proofs.Program.Trails
import ErrorTrail.Proofs.Report.Reading
import ErrorTrail.Proofs.Settings.Configuration
import ErrorTrail.Proofs.Settings.EnvFile
import ErrorTrail.Proofs.Settings.Moved
import ErrorTrail.Proofs.Settings.Sources
import ErrorTrail.Proofs.Site.Agreement
import ErrorTrail.Proofs.Site.Boundaries
import ErrorTrail.Proofs.Site.Completeness
import ErrorTrail.Proofs.Site.Enclosing
import ErrorTrail.Proofs.Site.Factory
import ErrorTrail.Proofs.Site.Failing
import ErrorTrail.Proofs.Site.Freshness
import ErrorTrail.Proofs.Site.Gathering
import ErrorTrail.Proofs.Site.Generators
import ErrorTrail.Proofs.Site.Hygiene
import ErrorTrail.Proofs.Site.Idempotence
import ErrorTrail.Proofs.Site.Lines
import ErrorTrail.Proofs.Site.Located
import ErrorTrail.Proofs.Site.Nesting
import ErrorTrail.Proofs.Site.Opening
import ErrorTrail.Proofs.Site.Outermost
import ErrorTrail.Proofs.Site.Plain
import ErrorTrail.Proofs.Site.Refusing
import ErrorTrail.Proofs.Site.Resolution
import ErrorTrail.Proofs.Site.Shape
import ErrorTrail.Proofs.Site.Shift
import ErrorTrail.Proofs.Site.Stripping
import ErrorTrail.Proofs.Site.Visit
import ErrorTrail.Proofs.Syntax.Blocks
import ErrorTrail.Proofs.Syntax.Capture
import ErrorTrail.Proofs.Syntax.ClassHeader
import ErrorTrail.Proofs.Syntax.Definitions
import ErrorTrail.Proofs.Syntax.Excerpt
import ErrorTrail.Proofs.Syntax.Fresh
import ErrorTrail.Proofs.Syntax.Grammar.Expression
import ErrorTrail.Proofs.Syntax.Grammar.Pattern
import ErrorTrail.Proofs.Syntax.Grammar.Statement
import ErrorTrail.Proofs.Syntax.Grammar.Text
import ErrorTrail.Proofs.Syntax.Members
import ErrorTrail.Proofs.Syntax.Occurrence
import ErrorTrail.Proofs.Syntax.Parsed
import ErrorTrail.Proofs.Syntax.Plain
import ErrorTrail.Proofs.Syntax.Reading
import ErrorTrail.Proofs.Syntax.Template
import ErrorTrail.Proofs.Syntax.Token.Lines
import ErrorTrail.Proofs.Syntax.Token.Places
import ErrorTrail.Proofs.Syntax.Token.Taken
import ErrorTrail.Proofs.Syntax.Traversal
import ErrorTrail.Proofs.Syntax.Yields
import ErrorTrail.Proofs.Text.Splitting
import ErrorTrail.Refusal
import ErrorTrail.Report
import ErrorTrail.Settings.Basic
import ErrorTrail.Settings.Configuration
import ErrorTrail.Settings.EnvFile
import ErrorTrail.Site.Boundary
import ErrorTrail.Site.Build
import ErrorTrail.Site.Definition
import ErrorTrail.Site.Propagation
import ErrorTrail.Site.Recompilation
import ErrorTrail.Site.Target
import ErrorTrail.Syntax.Compile
import ErrorTrail.Syntax.Excerpt
import ErrorTrail.Syntax.Grammar.Expression
import ErrorTrail.Syntax.Grammar.Pattern
import ErrorTrail.Syntax.Grammar.Reader
import ErrorTrail.Syntax.Grammar.Statement
import ErrorTrail.Syntax.Grammar.Target
import ErrorTrail.Syntax.Grammar.Text
import ErrorTrail.Syntax.Label
import ErrorTrail.Syntax.Literal
import ErrorTrail.Syntax.Names
import ErrorTrail.Syntax.Opening
import ErrorTrail.Syntax.Parse
import ErrorTrail.Syntax.Placement
import ErrorTrail.Syntax.Printer.Expression
import ErrorTrail.Syntax.Printer.Quotes
import ErrorTrail.Syntax.Printer.Statement
import ErrorTrail.Syntax.Scope
import ErrorTrail.Syntax.Token
import ErrorTrail.Syntax.Token.Lexer
import ErrorTrail.Syntax.Tree
import ErrorTrail.Text.Case
import ErrorTrail.Text.Classes
import ErrorTrail.Text.Compatibility
import ErrorTrail.Text.Hexadecimal
import ErrorTrail.Text.Quoted
import ErrorTrail.Validation
