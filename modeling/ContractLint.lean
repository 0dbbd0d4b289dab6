import ContractLint.Command.Basic
import ContractLint.Command.Contracts
import ContractLint.Command.EditorOptions
import ContractLint.Command.Options
import ContractLint.Command.Progress
import ContractLint.Command.Releases
import ContractLint.Command.Run
import ContractLint.Command.TypeCheck
import ContractLint.Contract.Lint
import ContractLint.Contract.Validate
import ContractLint.Decimal.Fixed
import ContractLint.Decimal.Shortest
import ContractLint.Entries
import ContractLint.Files.Archive
import ContractLint.Files.Content
import ContractLint.Files.Path
import ContractLint.Files.Tree
import ContractLint.Json.Access
import ContractLint.Json.Plain
import ContractLint.Json.Printer
import ContractLint.Json.Reader
import ContractLint.Json.Value
import ContractLint.Lint.Block
import ContractLint.Lint.BlockOperation
import ContractLint.Lint.CallGraph
import ContractLint.Lint.Check
import ContractLint.Lint.ContractClass
import ContractLint.Lint.Diagnostic
import ContractLint.Lint.Finding
import ContractLint.Lint.Hazard
import ContractLint.Lint.Header
import ContractLint.Lint.LooseCall
import ContractLint.Lint.Names
import ContractLint.Lint.Scope
import ContractLint.Lint.Storage
import ContractLint.Lint.StrictEquality
import ContractLint.Main
import ContractLint.Measure.Checkpoint
import ContractLint.Measure.Coverage
import ContractLint.Measure.Number
import ContractLint.Measure.Plateau
import ContractLint.Measure.Round
import ContractLint.Measure.SelfCheck
import ContractLint.Measure.Share
import ContractLint.Measure.Tool
import ContractLint.Release.Cache
import ContractLint.Release.Clean
import ContractLint.Release.Download
import ContractLint.Release.Listing
import ContractLint.Release.Repository
import ContractLint.Release.Version
import ContractLint.Report.Editor
import ContractLint.Report.Lint
import ContractLint.Report.Schema
import ContractLint.Report.Validation
import ContractLint.Runner.Extract
import ContractLint.Runner.Index
import ContractLint.Runner.Manifest
import ContractLint.Runner.Path
import ContractLint.Sample.Contract
import ContractLint.Sample.Sdk
import ContractLint.Sdk.Dependencies
import ContractLint.Sdk.Load
import ContractLint.Sdk.Paths
import ContractLint.Sdk.Source
import ContractLint.Source.Fault
import ContractLint.Source.Glyph
import ContractLint.Source.Grammar.Basic
import ContractLint.Source.Grammar.Expression
import ContractLint.Source.Grammar.Parser
import ContractLint.Source.Grammar.Pattern
import ContractLint.Source.Grammar.Statement
import ContractLint.Source.Grammar.Template
import ContractLint.Source.Lexer
import ContractLint.Source.Node
import ContractLint.Source.Number
import ContractLint.Source.Parse
import ContractLint.Source.Quoted
import ContractLint.Source.Token
import ContractLint.Source.Walk
import ContractLint.Stubs.Generate
import ContractLint.Stubs.Text
import ContractLint.Text.Blank
import ContractLint.Text.DecimalDigit
import ContractLint.Text.Fraction
import ContractLint.Text.Identifier
import ContractLint.Text.Integer
import ContractLint.Text.Lines
import ContractLint.Text.NormalForm
import ContractLint.Text.NormalForm.Tables
import ContractLint.Text.Pad
import ContractLint.Text.Printable
import ContractLint.Text.Quote
import ContractLint.Text.Ranges
import ContractLint.Text.Search
import ContractLint.Text.Utf8
import ContractLint.Text.Wildcard
import ContractLint.Text.Word
import ContractLint.Validation.Check
import ContractLint.Validation.Module
import ContractLint.Validation.Trouble
import ContractLint.Workload.Basic
import ContractLint.Workload.Lint
import ContractLint.Workload.Releases
import ContractLint.Workload.Sdk
import ContractLint.World.Basic
import ContractLint.World.Failure
import ContractLint.Proofs.Source.Words
import ContractLint.Proofs.Source.Formed
import ContractLint.Proofs.Source.Expressions
import ContractLint.Proofs.Lint.Scopes
import ContractLint.Proofs.Source.Statements
import ContractLint.Proofs.Lint.Reachability
import ContractLint.Proofs.Lint.Visitors
import ContractLint.Proofs.Lint.Blocks
import ContractLint.Proofs.Lint.Verdicts
import ContractLint.Proofs.Lint.Hosts
import ContractLint.Proofs.Lint.Headers
import ContractLint.Proofs.Files.Places
import ContractLint.Proofs.Files.Growth
import ContractLint.Proofs.Files.Beside
import ContractLint.Proofs.Files.Texts
import ContractLint.Proofs.World.Runs
import ContractLint.Proofs.Text.Patterns
import ContractLint.Proofs.Json.RoundTrip
import ContractLint.Proofs.Release.Bundles
import ContractLint.Proofs.Release.Isolation
import ContractLint.Proofs.Release.Downloads
import ContractLint.Proofs.Release.Cleaning
import ContractLint.Proofs.Runner.Extraction
import ContractLint.Proofs.Runner.Containment
import ContractLint.Proofs.Runner.Members
import ContractLint.Proofs.Runner.Sources
import ContractLint.Proofs.Runner.Completeness
import ContractLint.Proofs.Runner.Freshness
import ContractLint.Proofs.Contract.FrontEnds
import ContractLint.Proofs.Sdk.Pins
import ContractLint.Proofs.Lint.Calls
import ContractLint.Proofs.Lint.StatementOrder
import ContractLint.Proofs.Lint.Mismatches
import ContractLint.Proofs.Source.Outside
import ContractLint.Proofs.Lint.ReturnStatements
import ContractLint.Proofs.Lint.RawOutput
import ContractLint.Proofs.Lint.Bindings
import ContractLint.Proofs.Lint.LambdaScopes
import ContractLint.Proofs.Command.Preview
import ContractLint.Proofs.Lint.NestedFunctions
import ContractLint.Proofs.Lint.HandedCode
import ContractLint.Proofs.Lint.Operations
import ContractLint.Proofs.Lint.CallNames
import ContractLint.Proofs.Lint.Members
import ContractLint.Proofs.Lint.StorageClasses
import ContractLint.Proofs.Entries
import ContractLint.Proofs.Lint.Exceptions
import ContractLint.Proofs.Lint.PublicMethods
import ContractLint.Proofs.Runner.Layouts
import ContractLint.Proofs.Sdk.Written
import ContractLint.Proofs.Files.Listings
import ContractLint.Proofs.Json.Access
import ContractLint.Proofs.Release.VersionOrder
import ContractLint.Proofs.Release.NewestRelease
import ContractLint.Proofs.Sdk.Reproducible
import ContractLint.Proofs.Release.Accounts
import ContractLint.Proofs.Json.Layouts
import ContractLint.Proofs.Lint.DottedNames
import ContractLint.Proofs.Command.Diagnostics
import ContractLint.Proofs.Stubs.Served
import ContractLint.Proofs.Measure.Plateaus
