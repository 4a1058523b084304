import ServerLauncher.Acquire
import ServerLauncher.Cli.Bootstrap
import ServerLauncher.Cli.EnvFile
import ServerLauncher.Cli.Level
import ServerLauncher.Cli.LogFilter
import ServerLauncher.Cli.Server
import ServerLauncher.Cli.Session
import ServerLauncher.Cli.Usage
import ServerLauncher.Config
import ServerLauncher.Download
import ServerLauncher.Error
import ServerLauncher.Files.Change
import ServerLauncher.Files.Error
import ServerLauncher.Files.Staged
import ServerLauncher.Files.Tree
import ServerLauncher.Files.Walk
import ServerLauncher.Host
import ServerLauncher.Log
import ServerLauncher.Main
import ServerLauncher.Platform
import ServerLauncher.Probe
import ServerLauncher.Progress.Bar
import ServerLauncher.Progress.Tracker
import ServerLauncher.Proofs.Accuracy
import ServerLauncher.Proofs.Addresses
import ServerLauncher.Proofs.Apart
import ServerLauncher.Proofs.Ascent
import ServerLauncher.Proofs.BarCalls
import ServerLauncher.Proofs.BarSteps
import ServerLauncher.Proofs.Binary64
import ServerLauncher.Proofs.CallLog
import ServerLauncher.Proofs.Cancellation
import ServerLauncher.Proofs.Causes
import ServerLauncher.Proofs.Completion
import ServerLauncher.Proofs.Containment
import ServerLauncher.Proofs.Contest
import ServerLauncher.Proofs.Course
import ServerLauncher.Proofs.Creation
import ServerLauncher.Proofs.Directories
import ServerLauncher.Proofs.Diversion
import ServerLauncher.Proofs.Exactness
import ServerLauncher.Proofs.ExitCodes
import ServerLauncher.Proofs.Fanout
import ServerLauncher.Proofs.Isolation
import ServerLauncher.Proofs.Ledger
import ServerLauncher.Proofs.LogLines
import ServerLauncher.Proofs.LooseReading
import ServerLauncher.Proofs.NoTrace
import ServerLauncher.Proofs.Outcomes
import ServerLauncher.Proofs.Outlines
import ServerLauncher.Proofs.PathSteps
import ServerLauncher.Proofs.Percentages
import ServerLauncher.Proofs.Placement
import ServerLauncher.Proofs.Preparation
import ServerLauncher.Proofs.ReleaseAddress
import ServerLauncher.Proofs.Reporting
import ServerLauncher.Proofs.Reuse
import ServerLauncher.Proofs.Rivals
import ServerLauncher.Proofs.RootVariable
import ServerLauncher.Proofs.Scanning
import ServerLauncher.Proofs.ServerArguments
import ServerLauncher.Proofs.Serving
import ServerLauncher.Proofs.Shared
import ServerLauncher.Proofs.SingleCall
import ServerLauncher.Proofs.Sources
import ServerLauncher.Proofs.Spacing
import ServerLauncher.Proofs.Stages
import ServerLauncher.Proofs.Staging
import ServerLauncher.Proofs.Stalling
import ServerLauncher.Proofs.Steps
import ServerLauncher.Proofs.Surroundings
import ServerLauncher.Proofs.Tokenless
import ServerLauncher.Proofs.Trials
import ServerLauncher.Proofs.Waits
import ServerLauncher.Proofs.Walking
import ServerLauncher.Proofs.Wording
import ServerLauncher.Release
import ServerLauncher.Script.Expansion
import ServerLauncher.Script.Lexer
import ServerLauncher.Script.Machine
import ServerLauncher.Script.Parser
import ServerLauncher.Script.Pattern
import ServerLauncher.Script.Run
import ServerLauncher.Script.Sum
import ServerLauncher.Script.Utility
import ServerLauncher.Storage
import ServerLauncher.Tag
import ServerLauncher.Text.Alphanumeric
import ServerLauncher.Text.Basic
import ServerLauncher.Text.Category
import ServerLauncher.Text.Composite
import ServerLauncher.Text.Normal
import ServerLauncher.Text.Ranges
import ServerLauncher.Transport
import ServerLauncher.Url.Address
import ServerLauncher.Url.Basic
import ServerLauncher.Url.Domain
import ServerLauncher.Url.Domain.Mapping
import ServerLauncher.Url.Parser
import ServerLauncher.Url.Punycode
