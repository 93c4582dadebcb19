import Slipway.Archive.Deflate.Block
import Slipway.Archive.Deflate.Code
import Slipway.Archive.Deflate.Match
import Slipway.Archive.Gzip
import Slipway.Archive.Inflate
import Slipway.Archive.Tar
import Slipway.Archive.TarMember
import Slipway.Archive.TarReader
import Slipway.Calendar.Basic
import Slipway.Calendar.Format
import Slipway.Calendar.Reading
import Slipway.Console.Arguments
import Slipway.Console.Command
import Slipway.Console.Json
import Slipway.Console.Log
import Slipway.Console.Style
import Slipway.Console.Summary
import Slipway.Console.Terminal
import Slipway.Console.ValuePattern
import Slipway.Digest.Checksum
import Slipway.Digest.FourRounds
import Slipway.Digest.Sha256
import Slipway.Digest.Wide
import Slipway.FileSystem.Access
import Slipway.FileSystem.Basic
import Slipway.FileSystem.Walk
import Slipway.Invocation
import Slipway.Machine.Basic
import Slipway.Machine.Edit
import Slipway.Machine.Executable
import Slipway.Machine.Rehearsal
import Slipway.Machine.System
import Slipway.Machine.SystemRunner
import Slipway.Machine.World
import Slipway.Main
import Slipway.Path
import Slipway.Platform
import Slipway.Program
import Slipway.Proofs.Access
import Slipway.Proofs.Atomicity
import Slipway.Proofs.Calls
import Slipway.Proofs.Canonical
import Slipway.Proofs.Checksums
import Slipway.Proofs.Crowd
import Slipway.Proofs.Delivery
import Slipway.Proofs.Diagnostics
import Slipway.Proofs.Execution
import Slipway.Proofs.FailFast
import Slipway.Proofs.Figures
import Slipway.Proofs.Grounded
import Slipway.Proofs.History
import Slipway.Proofs.Independence
import Slipway.Proofs.Layout
import Slipway.Proofs.Leftovers
import Slipway.Proofs.Likeness
import Slipway.Proofs.Lineage
import Slipway.Proofs.Lockstep
import Slipway.Proofs.Neighbours
import Slipway.Proofs.Packaging
import Slipway.Proofs.Paths
import Slipway.Proofs.Pieces
import Slipway.Proofs.Precedence
import Slipway.Proofs.Preflight
import Slipway.Proofs.Progress
import Slipway.Proofs.PublishCommand
import Slipway.Proofs.Race
import Slipway.Proofs.ReadBack
import Slipway.Proofs.Readiness
import Slipway.Proofs.Rebuilds
import Slipway.Proofs.Relocation
import Slipway.Proofs.Replacing
import Slipway.Proofs.Setup
import Slipway.Proofs.ShortHashes
import Slipway.Proofs.Sidecar
import Slipway.Proofs.Stages
import Slipway.Proofs.Targets
import Slipway.Proofs.TestedBinary
import Slipway.Proofs.Trees
import Slipway.Proofs.Utf8
import Slipway.Proofs.Verdicts
import Slipway.Proofs.Version
import Slipway.Proofs.Walking
import Slipway.Proofs.WriteOnce
import Slipway.Records.Eval
import Slipway.Records.Parser
import Slipway.Records.Pattern
import Slipway.Records.Reading
import Slipway.Records.Run
import Slipway.Records.Start
import Slipway.Records.Store
import Slipway.Records.Streams
import Slipway.Records.Syntax
import Slipway.Records.Tokens
import Slipway.Records.Value
import Slipway.Regex.Basic
import Slipway.Regex.Parser
import Slipway.Release.Artifact
import Slipway.Release.Build
import Slipway.Release.Error
import Slipway.Release.Event
import Slipway.Release.Files
import Slipway.Release.Locate
import Slipway.Release.Packaging
import Slipway.Release.Pipeline
import Slipway.Release.SmokeTests
import Slipway.Release.Version
import Slipway.Rich.Arithmetic
import Slipway.Rich.Builtin.Control
import Slipway.Rich.Builtin.Declarations
import Slipway.Rich.Builtin.Directories
import Slipway.Rich.Builtin.Input
import Slipway.Rich.Builtin.Lookup
import Slipway.Rich.Builtin.Options
import Slipway.Rich.Condition
import Slipway.Rich.Escapes
import Slipway.Rich.Eval
import Slipway.Rich.Expansion
import Slipway.Rich.Fields
import Slipway.Rich.Format
import Slipway.Rich.Parameters
import Slipway.Rich.Parser
import Slipway.Rich.Pattern
import Slipway.Rich.Printer
import Slipway.Rich.Programs
import Slipway.Rich.Redirection
import Slipway.Rich.Simple
import Slipway.Rich.Start
import Slipway.Rich.Store
import Slipway.Rich.Syntax
import Slipway.Rich.Tokens
import Slipway.Rich.Variables
import Slipway.Rich.Words
import Slipway.Settings
import Slipway.Shell.Arithmetic
import Slipway.Shell.Bindings
import Slipway.Shell.Builtin.Control
import Slipway.Shell.Builtin.Directories
import Slipway.Shell.Builtin.Lookup
import Slipway.Shell.Builtin.Options
import Slipway.Shell.Builtin.Parameters
import Slipway.Shell.Channels
import Slipway.Shell.Condition
import Slipway.Shell.Eval
import Slipway.Shell.Expansion
import Slipway.Shell.Fields
import Slipway.Shell.Format
import Slipway.Shell.Number
import Slipway.Shell.Parser
import Slipway.Shell.Pattern
import Slipway.Shell.Process
import Slipway.Shell.Runner
import Slipway.Shell.Simple
import Slipway.Shell.Source
import Slipway.Shell.Start
import Slipway.Shell.Syntax
import Slipway.Shell.Tokens
import Slipway.SystemError
import Slipway.Text.Alphanumeric
import Slipway.Text.Basic
import Slipway.Text.Binary64
import Slipway.Text.Characters
import Slipway.Text.Mode
import Slipway.Text.Utf8
import Slipway.Tool.Archiving.Archiver
import Slipway.Tool.Archiving.Packing
import Slipway.Tool.Archiving.Plan
import Slipway.Tool.Archiving.Unpacking
import Slipway.Tool.Blocks
import Slipway.Tool.Checks
import Slipway.Tool.Columns
import Slipway.Tool.Comparing
import Slipway.Tool.Compressing
import Slipway.Tool.Differences
import Slipway.Tool.Dumps
import Slipway.Tool.Editing.Run
import Slipway.Tool.Editing.Script
import Slipway.Tool.Encodings
import Slipway.Tool.Figures
import Slipway.Tool.Finding
import Slipway.Tool.Identity
import Slipway.Tool.Joining
import Slipway.Tool.Lines
import Slipway.Tool.Listing
import Slipway.Tool.Making
import Slipway.Tool.Moving
import Slipway.Tool.Names
import Slipway.Tool.Options
import Slipway.Tool.Pages
import Slipway.Tool.Paragraphs
import Slipway.Tool.Pieces
import Slipway.Tool.Placing
import Slipway.Tool.Searching
import Slipway.Tool.Sorting
import Slipway.Tool.Speaking
import Slipway.Tool.Starting
import Slipway.Tool.Streams
import Slipway.Tool.Sums
import Slipway.Tool.Table
import Slipway.Tool.Translation
