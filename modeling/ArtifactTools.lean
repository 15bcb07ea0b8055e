import ArtifactTools.Binary
import ArtifactTools.Cancellation
import ArtifactTools.CommandLine.Arguments
import ArtifactTools.CommandLine.Change
import ArtifactTools.CommandLine.Inspection
import ArtifactTools.CommandLine.Program
import ArtifactTools.CommandLine.Reach
import ArtifactTools.CommandLine.Request
import ArtifactTools.CommandLine.Session
import ArtifactTools.Config
import ArtifactTools.Config.File
import ArtifactTools.Config.Tools
import ArtifactTools.Conversion
import ArtifactTools.Conversion.Tools
import ArtifactTools.Dictionary
import ArtifactTools.Digest.Basic
import ArtifactTools.Digest.Brief
import ArtifactTools.Digest.Long
import ArtifactTools.Double
import ArtifactTools.Duration
import ArtifactTools.Failure
import ArtifactTools.HexDump
import ArtifactTools.Host
import ArtifactTools.Host.FileTree
import ArtifactTools.Host.Layout
import ArtifactTools.Host.Program
import ArtifactTools.Identity
import ArtifactTools.Json.Document
import ArtifactTools.Json.Printer
import ArtifactTools.Json.Value
import ArtifactTools.Main
import ArtifactTools.Operation
import ArtifactTools.Path
import ArtifactTools.Process
import ArtifactTools.Process.Supervision
import ArtifactTools.Process.SystemLauncher
import ArtifactTools.Proofs.CommandLine.Assignments
import ArtifactTools.Proofs.CommandLine.Converting
import ArtifactTools.Proofs.CommandLine.Editing
import ArtifactTools.Proofs.CommandLine.Keeping
import ArtifactTools.Proofs.CommandLine.Listing
import ArtifactTools.Proofs.CommandLine.Success
import ArtifactTools.Proofs.Config.Classpath
import ArtifactTools.Proofs.Config.Decoding
import ArtifactTools.Proofs.Config.Fields
import ArtifactTools.Proofs.Config.Saving
import ArtifactTools.Proofs.Config.Searching
import ArtifactTools.Proofs.Conversion.Accounting
import ArtifactTools.Proofs.Conversion.Arguments
import ArtifactTools.Proofs.Conversion.Launching
import ArtifactTools.Proofs.Conversion.Preparing
import ArtifactTools.Proofs.Dictionary
import ArtifactTools.Proofs.HexDump
import ArtifactTools.Proofs.HexDump.Layout
import ArtifactTools.Proofs.Host.Directories
import ArtifactTools.Proofs.Host.Files
import ArtifactTools.Proofs.Host.Leads
import ArtifactTools.Proofs.Host.Walks
import ArtifactTools.Proofs.Identity
import ArtifactTools.Proofs.Json.Layout
import ArtifactTools.Proofs.Json.Meaning
import ArtifactTools.Proofs.Json.Nesting
import ArtifactTools.Proofs.Json.Reading
import ArtifactTools.Proofs.Json.Tokens
import ArtifactTools.Proofs.Path
import ArtifactTools.Proofs.Path.Absolute
import ArtifactTools.Proofs.Path.Parents
import ArtifactTools.Proofs.Process.Starting
import ArtifactTools.Proofs.Process.Supervision
import ArtifactTools.Proofs.Registry.Building
import ArtifactTools.Proofs.Registry.Builtin
import ArtifactTools.Proofs.Registry.Construction
import ArtifactTools.Proofs.Registry.Creation
import ArtifactTools.Proofs.Registry.Drafts
import ArtifactTools.Proofs.Registry.Exports
import ArtifactTools.Proofs.Registry.Families
import ArtifactTools.Proofs.Registry.Handles
import ArtifactTools.Proofs.Registry.Importing
import ArtifactTools.Proofs.Registry.Imports
import ArtifactTools.Proofs.Registry.Indexing
import ArtifactTools.Proofs.Registry.Insertion
import ArtifactTools.Proofs.Registry.Keeping
import ArtifactTools.Proofs.Registry.Overlay
import ArtifactTools.Proofs.Registry.Publication
import ArtifactTools.Proofs.Registry.Racing
import ArtifactTools.Proofs.Registry.Requests
import ArtifactTools.Proofs.Registry.Selections
import ArtifactTools.Proofs.Registry.Serials
import ArtifactTools.Proofs.Registry.Transfer
import ArtifactTools.Proofs.Settings.Applying
import ArtifactTools.Proofs.Settings.Calls
import ArtifactTools.Proofs.Settings.Consistency
import ArtifactTools.Proofs.Settings.Declaring
import ArtifactTools.Proofs.Settings.Editing
import ArtifactTools.Proofs.Settings.Interleaving
import ArtifactTools.Proofs.Settings.Locality
import ArtifactTools.Proofs.Settings.Persistence
import ArtifactTools.Proofs.Settings.Snapshots
import ArtifactTools.Proofs.Settings.Texts
import ArtifactTools.Proofs.Settings.Traffic
import ArtifactTools.Proofs.Task.Delivery
import ArtifactTools.Proofs.Task.Loss
import ArtifactTools.Proofs.Text.Decimal
import ArtifactTools.Proofs.Text.Utf8
import ArtifactTools.Regex.Basic
import ArtifactTools.Regex.Reader
import ArtifactTools.Registry
import ArtifactTools.Registry.Builder
import ArtifactTools.Registry.Shared
import ArtifactTools.Settings.Kind
import ArtifactTools.Settings.Persisted
import ArtifactTools.Settings.Store
import ArtifactTools.Shell.Arithmetic
import ArtifactTools.Shell.Assigning
import ArtifactTools.Shell.Braces
import ArtifactTools.Shell.Builtin.Basic
import ArtifactTools.Shell.Builtin.Directories
import ArtifactTools.Shell.Builtin.Jobs
import ArtifactTools.Shell.Builtin.Names
import ArtifactTools.Shell.Builtin.Variables
import ArtifactTools.Shell.Builtins
import ArtifactTools.Shell.Calculation
import ArtifactTools.Shell.Calendar
import ArtifactTools.Shell.Calls
import ArtifactTools.Shell.Checks
import ArtifactTools.Shell.Command
import ArtifactTools.Shell.Controls
import ArtifactTools.Shell.Declared
import ArtifactTools.Shell.Expansion
import ArtifactTools.Shell.Extended.Arguments
import ArtifactTools.Shell.Extended.Builtins
import ArtifactTools.Shell.Extended.Controls
import ArtifactTools.Shell.Extended.Declarations
import ArtifactTools.Shell.Extended.Directories
import ArtifactTools.Shell.Extended.Doing
import ArtifactTools.Shell.Extended.Input
import ArtifactTools.Shell.Extended.Jobs
import ArtifactTools.Shell.Extended.Names
import ArtifactTools.Shell.Extended.Output
import ArtifactTools.Shell.Extended.Start
import ArtifactTools.Shell.Extended.Switches
import ArtifactTools.Shell.Extended.Test
import ArtifactTools.Shell.Fields
import ArtifactTools.Shell.Format
import ArtifactTools.Shell.Grammar
import ArtifactTools.Shell.Groups
import ArtifactTools.Shell.Lookup
import ArtifactTools.Shell.Machine
import ArtifactTools.Shell.Menu
import ArtifactTools.Shell.Native
import ArtifactTools.Shell.Native.Basic
import ArtifactTools.Shell.Native.Checksums
import ArtifactTools.Shell.Native.Circumstances
import ArtifactTools.Shell.Native.Columns
import ArtifactTools.Shell.Native.Comparison
import ArtifactTools.Shell.Native.Condition
import ArtifactTools.Shell.Native.Dates
import ArtifactTools.Shell.Native.Environment
import ArtifactTools.Shell.Native.Expression
import ArtifactTools.Shell.Native.Files
import ArtifactTools.Shell.Native.Limits
import ArtifactTools.Shell.Native.Lines
import ArtifactTools.Shell.Native.Listing
import ArtifactTools.Shell.Native.Modes
import ArtifactTools.Shell.Native.Names
import ArtifactTools.Shell.Native.Order
import ArtifactTools.Shell.Native.Search
import ArtifactTools.Shell.Native.Sequence
import ArtifactTools.Shell.Native.Status
import ArtifactTools.Shell.Native.Transfers
import ArtifactTools.Shell.Native.Translation
import ArtifactTools.Shell.Native.Writing
import ArtifactTools.Shell.Opening
import ArtifactTools.Shell.Options
import ArtifactTools.Shell.Pattern
import ArtifactTools.Shell.Quoting
import ArtifactTools.Shell.Redirections
import ArtifactTools.Shell.References
import ArtifactTools.Shell.Run
import ArtifactTools.Shell.Running
import ArtifactTools.Shell.Signal
import ArtifactTools.Shell.Source
import ArtifactTools.Shell.Start
import ArtifactTools.Shell.Test
import ArtifactTools.Shell.Turns
import ArtifactTools.Shell.Values
import ArtifactTools.Shell.Variable
import ArtifactTools.Shell.Words
import ArtifactTools.Shell.World
import ArtifactTools.Task
import ArtifactTools.Text.Blank
import ArtifactTools.Text.Decimal
import ArtifactTools.Text.Glyphless
import ArtifactTools.Text.Hexadecimal
import ArtifactTools.Text.Quoted
import ArtifactTools.Text.Utf8
import ArtifactTools.Transformer
import ArtifactTools.Viewer
