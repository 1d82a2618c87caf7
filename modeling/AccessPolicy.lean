import AccessPolicy.Claim
import AccessPolicy.Command.Check
import AccessPolicy.Command.Init
import AccessPolicy.Command.Invocation
import AccessPolicy.Command.Options
import AccessPolicy.Command.Policies
import AccessPolicy.Command.Report
import AccessPolicy.Command.Run
import AccessPolicy.Command.Show
import AccessPolicy.Command.Validate
import AccessPolicy.Document.Decode
import AccessPolicy.Document.Encode
import AccessPolicy.Document.Format
import AccessPolicy.Document.Problem
import AccessPolicy.Document.Tree
import AccessPolicy.Enforcer
import AccessPolicy.Event
import AccessPolicy.Files.Locations
import AccessPolicy.Files.Path
import AccessPolicy.Files.Settings
import AccessPolicy.Files.Tree
import AccessPolicy.Identity
import AccessPolicy.Json.Draft
import AccessPolicy.Json.Format
import AccessPolicy.Json.Printer
import AccessPolicy.Layers.Format
import AccessPolicy.Layers.KeyPath
import AccessPolicy.Layers.Layer
import AccessPolicy.Layers.Stack
import AccessPolicy.Layers.Variables
import AccessPolicy.Log.Directive
import AccessPolicy.Log.Filter
import AccessPolicy.Log.Pattern
import AccessPolicy.Main
import AccessPolicy.Names.Map
import AccessPolicy.Names.Set
import AccessPolicy.Number.Binary64
import AccessPolicy.Number.Reading
import AccessPolicy.Number.Shortest
import AccessPolicy.Outcome
import AccessPolicy.Policy
import AccessPolicy.PolicySet
import AccessPolicy.Principal
import AccessPolicy.Proofs.AllowedNames
import AccessPolicy.Proofs.AuditReading
import AccessPolicy.Proofs.AuditTrail
import AccessPolicy.Proofs.Branches
import AccessPolicy.Proofs.CanonicalForm
import AccessPolicy.Proofs.Checking
import AccessPolicy.Proofs.CompilationLog
import AccessPolicy.Proofs.Decoding
import AccessPolicy.Proofs.DenyLists
import AccessPolicy.Proofs.Dialects
import AccessPolicy.Proofs.Documents
import AccessPolicy.Proofs.DottedPaths
import AccessPolicy.Proofs.Dump
import AccessPolicy.Proofs.EditOrder
import AccessPolicy.Proofs.Edits
import AccessPolicy.Proofs.Encoding
import AccessPolicy.Proofs.EntryOrder
import AccessPolicy.Proofs.Environment
import AccessPolicy.Proofs.Extremes
import AccessPolicy.Proofs.FileLayers
import AccessPolicy.Proofs.FileTrees
import AccessPolicy.Proofs.HeldClaims
import AccessPolicy.Proofs.Identities
import AccessPolicy.Proofs.IgnoreList
import AccessPolicy.Proofs.Initialization
import AccessPolicy.Proofs.JsonText
import AccessPolicy.Proofs.LastEntry
import AccessPolicy.Proofs.Lenient
import AccessPolicy.Proofs.ListVariables
import AccessPolicy.Proofs.LoadErrors
import AccessPolicy.Proofs.Loading
import AccessPolicy.Proofs.Locks
import AccessPolicy.Proofs.Mentions
import AccessPolicy.Proofs.Merging
import AccessPolicy.Proofs.Misfits
import AccessPolicy.Proofs.Orders
import AccessPolicy.Proofs.Overlay
import AccessPolicy.Proofs.Overview
import AccessPolicy.Proofs.PartedPaths
import AccessPolicy.Proofs.QuotedText
import AccessPolicy.Proofs.Records
import AccessPolicy.Proofs.Registrations
import AccessPolicy.Proofs.Runs
import AccessPolicy.Proofs.Schema
import AccessPolicy.Proofs.Shapes
import AccessPolicy.Proofs.SingleFile
import AccessPolicy.Proofs.SingleVariables
import AccessPolicy.Proofs.SortedTrees
import AccessPolicy.Proofs.SpelledData
import AccessPolicy.Proofs.SpelledRecords
import AccessPolicy.Proofs.Spellings
import AccessPolicy.Proofs.Spots
import AccessPolicy.Proofs.TextVariables
import AccessPolicy.Proofs.Trees
import AccessPolicy.Proofs.UnsetVariables
import AccessPolicy.Proofs.Utf8
import AccessPolicy.Proofs.Validation
import AccessPolicy.Proofs.VariableKeys
import AccessPolicy.Proofs.VariableNames
import AccessPolicy.Proofs.VariableOrder
import AccessPolicy.Proofs.Verdict
import AccessPolicy.Rule
import AccessPolicy.Settings
import AccessPolicy.Terminal.Emoji
import AccessPolicy.Terminal.Ligature
import AccessPolicy.Terminal.Style
import AccessPolicy.Terminal.Table
import AccessPolicy.Terminal.Wide
import AccessPolicy.Terminal.Width
import AccessPolicy.Terminal.ZeroWidth
import AccessPolicy.Text.Alphanumeric
import AccessPolicy.Text.Case
import AccessPolicy.Text.Extending
import AccessPolicy.Text.LowerCase
import AccessPolicy.Text.Quoted
import AccessPolicy.Text.Ranges
import AccessPolicy.Text.Space
import AccessPolicy.Text.Unprintable
import AccessPolicy.Text.Utf8
import AccessPolicy.Toml.Datetime
import AccessPolicy.Toml.Format
import AccessPolicy.Toml.Printer
import AccessPolicy.Toml.Quoted
import AccessPolicy.Toml.Reader
import AccessPolicy.Toml.Scalar
import AccessPolicy.Toml.Sections
