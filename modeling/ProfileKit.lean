import ProfileKit.Check
import ProfileKit.Check.Code
import ProfileKit.Check.Index
import ProfileKit.Check.Report
import ProfileKit.Check.Rules
import ProfileKit.CommandLine
import ProfileKit.CommandLine.Arguments
import ProfileKit.CommandLine.Help
import ProfileKit.Decimal.Binary64
import ProfileKit.Decimal.Shortest
import ProfileKit.Decimal.Text
import ProfileKit.Document
import ProfileKit.Editor
import ProfileKit.Editor.Binding
import ProfileKit.Editor.Debounce
import ProfileKit.Editor.FieldMemory
import ProfileKit.Editor.Form
import ProfileKit.Error
import ProfileKit.FileTree
import ProfileKit.Id
import ProfileKit.Json
import ProfileKit.Json.Printer
import ProfileKit.Json.Reader
import ProfileKit.Kind
import ProfileKit.Main
import ProfileKit.Pattern
import ProfileKit.Pattern.Ast
import ProfileKit.Pattern.Expr
import ProfileKit.Pattern.GroupNames
import ProfileKit.Pattern.Program
import ProfileKit.Pattern.Reader
import ProfileKit.Profile
import ProfileKit.Profile.Api
import ProfileKit.Profile.Chunk
import ProfileKit.Profile.Field
import ProfileKit.Profile.Parser
import ProfileKit.Profile.Pipeline
import ProfileKit.Profile.Policy
import ProfileKit.Profile.Prompt
import ProfileKit.Profile.Record
import ProfileKit.Proofs.Profile.RoundTrip
import ProfileKit.Proofs.Table
import ProfileKit.Registry
import ProfileKit.Registry.Repair
import ProfileKit.Rule
import ProfileKit.Rule.Compile
import ProfileKit.Rule.Failure
import ProfileKit.Rule.Flags
import ProfileKit.Rule.Path
import ProfileKit.Rule.Run
import ProfileKit.Settings
import ProfileKit.Store
import ProfileKit.Store.Directory
import ProfileKit.Store.Faults
import ProfileKit.Store.Memory
import ProfileKit.Table
import ProfileKit.Text.Blank
import ProfileKit.Text.Integer
import ProfileKit.Text.Lines
import ProfileKit.Toml
import ProfileKit.Toml.Quoted
import ProfileKit.Toml.Reader
import ProfileKit.Unicode.CaseFolding
import ProfileKit.Unicode.CharSet
import ProfileKit.Unicode.Decomposition
import ProfileKit.Unicode.Direction
import ProfileKit.Unicode.GeneralCategory
import ProfileKit.Unicode.Joining
import ProfileKit.Unicode.Lowercase
import ProfileKit.Unicode.Property
import ProfileKit.Unicode.Script
import ProfileKit.Url
import ProfileKit.Url.Domain
import ProfileKit.Url.Punycode
import ProfileKit.Yaml.Node
import ProfileKit.Yaml.Printer
import ProfileKit.Yaml.Reader
import ProfileKit.Yaml.Scalar
import ProfileKit.Yaml.Scanner
import ProfileKit.Yaml.Token
import ProfileKit.Proofs.Id
import ProfileKit.Proofs.Store.Memory
import ProfileKit.Proofs.Store.Unreliable
import ProfileKit.Proofs.Registry.Repair
import ProfileKit.Proofs.Registry.RepairEffect
import ProfileKit.Proofs.Registry.Index
import ProfileKit.Proofs.Check.Findings
import ProfileKit.Proofs.Registry.Calls
import ProfileKit.Proofs.Registry.Reachable
import ProfileKit.Proofs.Registry.Save
import ProfileKit.Proofs.Registry.Rename
import ProfileKit.Proofs.Registry.Delete
import ProfileKit.Proofs.Editor.Binding
import ProfileKit.Proofs.Rule.CheckedRun
import ProfileKit.Proofs.Editor.RoundTrip
import ProfileKit.Proofs.Decimal.Rounding
import ProfileKit.Proofs.Decimal.Shortest
import ProfileKit.Proofs.Decimal.Text
import ProfileKit.Proofs.Json.WellFormed
import ProfileKit.Proofs.Document
import ProfileKit.Proofs.Editor.Numbers
import ProfileKit.Proofs.Editor.Reachable
import ProfileKit.Proofs.Editor.Local
import ProfileKit.Proofs.Profile.Faults
import ProfileKit.Proofs.Editor.Unedited
import ProfileKit.Proofs.Editor.Reread
import ProfileKit.Proofs.Check.Alike
import ProfileKit.Proofs.Editor.Clean
import ProfileKit.Proofs.Rule.Cascade
import ProfileKit.Proofs.Editor.Session
import ProfileKit.Proofs.Editor.PendingEdit
import ProfileKit.Proofs.Registry.NoLoss
import ProfileKit.Proofs.FileTree
import ProfileKit.Proofs.Store.Directory
import ProfileKit.Proofs.Store.Refinement
import ProfileKit.Proofs.Profile.Carried
import ProfileKit.Proofs.Registry.Unloaded
import ProfileKit.Proofs.Registry.AllOrNothing
import ProfileKit.Proofs.Editor.LastGood
import ProfileKit.Proofs.Editor.Separation
import ProfileKit.Proofs.Registry.Fallback
import ProfileKit.Proofs.Check.Pipeline
import ProfileKit.Proofs.Rule.TaggedLines
import ProfileKit.Proofs.Registry.Pools
import ProfileKit.Proofs.Registry.RenameBack
import ProfileKit.Proofs.Editor.Loads
import ProfileKit.Proofs.Text.Lines
import ProfileKit.Proofs.Text.Integer
import ProfileKit.Proofs.Rule.Path
import ProfileKit.Proofs.Rule.Output
import ProfileKit.Proofs.Rule.LineEnds
import ProfileKit.Proofs.Rule.JsonLines
import ProfileKit.Proofs.Pattern.Respelling
import ProfileKit.Proofs.Pattern.Reading
import ProfileKit.Proofs.Pattern.Escapes
import ProfileKit.Proofs.Pattern.ClassItems
import ProfileKit.Proofs.Pattern.ClassSigns
import ProfileKit.Proofs.Pattern.Classes
import ProfileKit.Proofs.Pattern.Groups
import ProfileKit.Proofs.Pattern.Sequences
import ProfileKit.Proofs.Pattern.Queries
import ProfileKit.Proofs.Pattern.GroupNames
import ProfileKit.Proofs.Check.Changes
import ProfileKit.Proofs.Check.Api
import ProfileKit.Proofs.Profile.Numbers
import ProfileKit.Proofs.Check.Numbers
import ProfileKit.Proofs.Editor.Reload
import ProfileKit.Proofs.Store.Listing
import ProfileKit.Proofs.Store.Saved
import ProfileKit.Proofs.Id.Suggest
import ProfileKit.Proofs.Check.Identity
import ProfileKit.Proofs.Registry.SuggestId
import ProfileKit.Proofs.Editor.Notices
