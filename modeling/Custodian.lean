import Custodian.Address
import Custodian.Agent
import Custodian.Behavior
import Custodian.Bytes
import Custodian.Channel
import Custodian.Channel.Interleaved
import Custodian.Channel.Line
import Custodian.CommandLine
import Custodian.Digest
import Custodian.DotEnv
import Custodian.Download
import Custodian.Endpoint
import Custodian.Error
import Custodian.Files.Chunks
import Custodian.Files.Fault
import Custodian.Files.Path
import Custodian.Files.Sink
import Custodian.Files.Tree
import Custodian.Fragment
import Custodian.Identity
import Custodian.LogFilter
import Custodian.LogFilter.Directive
import Custodian.Main
import Custodian.Message.Basic
import Custodian.Message.Dict
import Custodian.Orchestrator
import Custodian.Program
import Custodian.Proofs.AfterClose
import Custodian.Proofs.Announcement
import Custodian.Proofs.Answers
import Custodian.Proofs.Attempts
import Custodian.Proofs.BackupReport
import Custodian.Proofs.Blocks
import Custodian.Proofs.Breakdown
import Custodian.Proofs.Call
import Custodian.Proofs.Channel
import Custodian.Proofs.Chunks
import Custodian.Proofs.Closing
import Custodian.Proofs.Commands
import Custodian.Proofs.Confinement
import Custodian.Proofs.Delivery
import Custodian.Proofs.Dict
import Custodian.Proofs.Digest
import Custodian.Proofs.Download
import Custodian.Proofs.Effects
import Custodian.Proofs.Endings
import Custodian.Proofs.Failure
import Custodian.Proofs.Fields
import Custodian.Proofs.Identity
import Custodian.Proofs.Incomplete
import Custodian.Proofs.Interleaved
import Custodian.Proofs.Leftover
import Custodian.Proofs.LogFilter
import Custodian.Proofs.Merging
import Custodian.Proofs.Messages
import Custodian.Proofs.Numbers
import Custodian.Proofs.OpenCall
import Custodian.Proofs.Outbound
import Custodian.Proofs.Path
import Custodian.Proofs.Precedence
import Custodian.Proofs.Records
import Custodian.Proofs.Registration
import Custodian.Proofs.Restore
import Custodian.Proofs.RestoreReport
import Custodian.Proofs.Reuse
import Custodian.Proofs.RoundTrip
import Custodian.Proofs.RunningDigest
import Custodian.Proofs.Scalars
import Custodian.Proofs.Schema
import Custodian.Proofs.Segments
import Custodian.Proofs.Sink
import Custodian.Proofs.SinkHistory
import Custodian.Proofs.Tree
import Custodian.Proofs.Truncation
import Custodian.Proofs.Uninterrupted
import Custodian.Proofs.Unknown
import Custodian.Proofs.Unreliable
import Custodian.Proofs.Upload
import Custodian.Queue
import Custodian.Queue.Outbound
import Custodian.Reference.Behavior
import Custodian.Reference.Config
import Custodian.Session
import Custodian.Settings
import Custodian.Settings.Load
import Custodian.Text.Blank
import Custodian.Text.Cut
import Custodian.Text.Letters
import Custodian.Text.Number
import Custodian.Text.Quoted
import Custodian.Text.Ranges
import Custodian.Toml.Document
import Custodian.Toml.Reader
import Custodian.Toml.Scalar
import Custodian.Toml.Value
import Custodian.Upload
import Custodian.Upload.Call
import Custodian.Wire.Field
import Custodian.Wire.Message
import Custodian.Wire.Schema
