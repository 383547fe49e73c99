import ApiTrace.CommandLine.Execution
import ApiTrace.CommandLine.Invocation
import ApiTrace.CommandLine.Option
import ApiTrace.CommandLine.Places
import ApiTrace.Configuration.Basic
import ApiTrace.Configuration.Fields
import ApiTrace.Configuration.Reading
import ApiTrace.Configuration.Writing
import ApiTrace.Diagnostic
import ApiTrace.Digest
import ApiTrace.Generated.Converter
import ApiTrace.Generated.Hook
import ApiTrace.Generated.IdHeader
import ApiTrace.Generated.LookupTable
import ApiTrace.Generated.Naming
import ApiTrace.Generated.Shim
import ApiTrace.Header.Basic
import ApiTrace.Header.Callback
import ApiTrace.Header.Comment
import ApiTrace.Header.Conditional
import ApiTrace.Header.Declaration
import ApiTrace.Header.Dialect
import ApiTrace.Header.Error
import ApiTrace.Header.VendorNumbers
import ApiTrace.Identity.Assignment
import ApiTrace.Identity.Category
import ApiTrace.Identity.Entry
import ApiTrace.Identity.Error
import ApiTrace.Identity.IdFile
import ApiTrace.Identity.IdMap
import ApiTrace.Identity.Numbering
import ApiTrace.Identity.Plan
import ApiTrace.Identity.VendorCheck
import ApiTrace.Identity.Version
import ApiTrace.Journal
import ApiTrace.Json
import ApiTrace.Main
import ApiTrace.NameMap
import ApiTrace.Proofs.Generated.Banner
import ApiTrace.Proofs.Generated.Converter
import ApiTrace.Proofs.Generated.Hook
import ApiTrace.Proofs.Generated.IdHeader
import ApiTrace.Proofs.Generated.Registration
import ApiTrace.Proofs.Generated.Shim
import ApiTrace.Proofs.Generated.StateMaps
import ApiTrace.Proofs.Header.Body
import ApiTrace.Proofs.Header.Callback
import ApiTrace.Proofs.Header.Comment
import ApiTrace.Proofs.Header.CommentState
import ApiTrace.Proofs.Header.Conditional
import ApiTrace.Proofs.Header.Dialect
import ApiTrace.Proofs.Header.EnumMember
import ApiTrace.Proofs.Header.Grammar
import ApiTrace.Proofs.Header.Layout
import ApiTrace.Proofs.Header.Literal
import ApiTrace.Proofs.Header.TrailingComment
import ApiTrace.Proofs.Header.VendorNumbers
import ApiTrace.Proofs.Identity.Assignment
import ApiTrace.Proofs.Identity.Binding
import ApiTrace.Proofs.Identity.Capacity
import ApiTrace.Proofs.Identity.Check
import ApiTrace.Proofs.Identity.Conservation
import ApiTrace.Proofs.Identity.Course
import ApiTrace.Proofs.Identity.Current
import ApiTrace.Proofs.Identity.Deed
import ApiTrace.Proofs.Identity.Distinctness
import ApiTrace.Proofs.Identity.EntryBlock
import ApiTrace.Proofs.Identity.FirstRun
import ApiTrace.Proofs.Identity.History
import ApiTrace.Proofs.Identity.IdFile
import ApiTrace.Proofs.Identity.IdMap
import ApiTrace.Proofs.Identity.Minting
import ApiTrace.Proofs.Identity.Names
import ApiTrace.Proofs.Identity.Overtaking
import ApiTrace.Proofs.Identity.Plan
import ApiTrace.Proofs.Identity.Provenance
import ApiTrace.Proofs.Identity.Reload
import ApiTrace.Proofs.Identity.Reorder
import ApiTrace.Proofs.Identity.Report
import ApiTrace.Proofs.Identity.Stability
import ApiTrace.Proofs.Identity.Succession
import ApiTrace.Proofs.Identity.VendorCheck
import ApiTrace.Proofs.Identity.VendorMismatch
import ApiTrace.Proofs.Identity.VendorMissing
import ApiTrace.Proofs.Identity.Version
import ApiTrace.Proofs.Run.Contract
import ApiTrace.Proofs.Run.Draft
import ApiTrace.Proofs.Run.IdHeaders
import ApiTrace.Proofs.Run.Operation
import ApiTrace.Proofs.Run.Publication
import ApiTrace.Proofs.Run.Scan
import ApiTrace.Proofs.Run.Temporary
import ApiTrace.Proofs.Selection
import ApiTrace.Proofs.Sequence
import ApiTrace.Proofs.Symbol.ConditionalMembers
import ApiTrace.Proofs.Symbol.Coverage
import ApiTrace.Proofs.Symbol.DeclaredNames
import ApiTrace.Proofs.Symbol.Dispatch
import ApiTrace.Proofs.Symbol.EnumReading
import ApiTrace.Proofs.Symbol.ParameterBlocks
import ApiTrace.Proofs.Symbol.ParameterLayout
import ApiTrace.Proofs.Symbol.ParameterLines
import ApiTrace.Proofs.Symbol.Table
import ApiTrace.Proofs.Symbol.TrailingComment
import ApiTrace.Proofs.Text.Words
import ApiTrace.Proofs.Workspace.Directories
import ApiTrace.Proofs.Workspace.Path
import ApiTrace.Proofs.Workspace.Staging
import ApiTrace.Proofs.Workspace.Temporary
import ApiTrace.Run.Draft
import ApiTrace.Run.Error
import ApiTrace.Run.Generate
import ApiTrace.Run.Operation
import ApiTrace.Run.Output
import ApiTrace.Run.Scan
import ApiTrace.Run.Source
import ApiTrace.Run.Validate
import ApiTrace.Symbol.Dispatch
import ApiTrace.Symbol.EnumReading
import ApiTrace.Symbol.Enumeration
import ApiTrace.Symbol.Function
import ApiTrace.Symbol.Guard
import ApiTrace.Symbol.Parameters
import ApiTrace.Symbol.Table
import ApiTrace.Text.Blank
import ApiTrace.Text.CaseTable
import ApiTrace.Text.Control
import ApiTrace.Text.LetterCase
import ApiTrace.Text.Line
import ApiTrace.Text.Numeral
import ApiTrace.Text.Search
import ApiTrace.Text.WordClass
import ApiTrace.Text.WordRange
import ApiTrace.Toml.Document
import ApiTrace.Toml.Quoted
import ApiTrace.Toml.Scalar
import ApiTrace.Toml.Table
import ApiTrace.Toml.Value
import ApiTrace.Workspace.Access
import ApiTrace.Workspace.Basic
import ApiTrace.Workspace.Fault
import ApiTrace.Workspace.Path
import ApiTrace.Workspace.Staging
