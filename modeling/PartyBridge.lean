import PartyBridge.Bridge.Calls
import PartyBridge.Bridge.Error
import PartyBridge.ByteStream.Sink
import PartyBridge.ByteStream.Source
import PartyBridge.Driver.Error
import PartyBridge.Driver.Lookup
import PartyBridge.Driver.Reply
import PartyBridge.Driver.Request
import PartyBridge.Driver.Serve
import PartyBridge.Engine.Exit
import PartyBridge.Engine.Invocation
import PartyBridge.Engine.Supervision
import PartyBridge.EngineOutput.Diagnostics
import PartyBridge.EngineOutput.Drain
import PartyBridge.EngineOutput.Feed
import PartyBridge.EngineOutput.Line
import PartyBridge.Failure
import PartyBridge.Host.Errno
import PartyBridge.Host.Exec
import PartyBridge.Host.Machine
import PartyBridge.Host.Program
import PartyBridge.Host.Run
import PartyBridge.Host.Signal
import PartyBridge.Host.Tree
import PartyBridge.Journal.Ledger
import PartyBridge.Journal.LogFile
import PartyBridge.Journal.Note
import PartyBridge.Journal.Paths
import PartyBridge.Journal.Trace
import PartyBridge.Json.Fault
import PartyBridge.Json.Reader
import PartyBridge.Json.Value
import PartyBridge.Main
import PartyBridge.Number.Binary64
import PartyBridge.Number.Floating
import PartyBridge.Number.Shortest
import PartyBridge.Options.CommandLine
import PartyBridge.Options.Parameter
import PartyBridge.Options.Settings
import PartyBridge.Player
import PartyBridge.Proofs.Bridge.Answers
import PartyBridge.Proofs.Bridge.Calls
import PartyBridge.Proofs.Bridge.Discretion
import PartyBridge.Proofs.Bridge.Receive
import PartyBridge.Proofs.Bridge.Runs
import PartyBridge.Proofs.ByteStream.Lines
import PartyBridge.Proofs.Driver.Alike
import PartyBridge.Proofs.Driver.Framing
import PartyBridge.Proofs.Driver.Integers
import PartyBridge.Proofs.Driver.Lockstep
import PartyBridge.Proofs.Driver.Members
import PartyBridge.Proofs.Driver.Replies
import PartyBridge.Proofs.Driver.Resolution
import PartyBridge.Proofs.Engine.Discretion
import PartyBridge.Proofs.Engine.Termination
import PartyBridge.Proofs.EngineOutput.Discretion
import PartyBridge.Proofs.EngineOutput.Drain
import PartyBridge.Proofs.EngineOutput.Feeding
import PartyBridge.Proofs.EngineOutput.Grammar
import PartyBridge.Proofs.EngineOutput.Marker
import PartyBridge.Proofs.EngineOutput.Stream
import PartyBridge.Proofs.EngineOutput.Wire
import PartyBridge.Proofs.Ensemble.Arrival
import PartyBridge.Proofs.Ensemble.Delivery
import PartyBridge.Proofs.Ensemble.Lossless
import PartyBridge.Proofs.Ensemble.Parties
import PartyBridge.Proofs.Ensemble.Release
import PartyBridge.Proofs.Ensemble.Shutdown
import PartyBridge.Proofs.Ensemble.Undisturbed
import PartyBridge.Proofs.Handoff.Callers
import PartyBridge.Proofs.Handoff.History
import PartyBridge.Proofs.Handoff.Turns
import PartyBridge.Proofs.Handoff.Wakeup
import PartyBridge.Proofs.Journal.Agreement
import PartyBridge.Proofs.Journal.Diagnostics
import PartyBridge.Proofs.Journal.Gating
import PartyBridge.Proofs.Journal.LogFile
import PartyBridge.Proofs.Journal.SharedLog
import PartyBridge.Proofs.Json.Numerals
import PartyBridge.Proofs.Json.Objects
import PartyBridge.Proofs.Json.Reader
import PartyBridge.Proofs.Json.Readings
import PartyBridge.Proofs.Json.Spacing
import PartyBridge.Proofs.Options.CommandLine
import PartyBridge.Proofs.Options.Validation
import PartyBridge.Proofs.Run
import PartyBridge.Proofs.Session.Companion
import PartyBridge.Proofs.Session.Course
import PartyBridge.Proofs.Session.Disclosure
import PartyBridge.Proofs.Session.Faithful
import PartyBridge.Proofs.Session.Likeness
import PartyBridge.Proofs.Session.Reception
import PartyBridge.Proofs.Session.Replay
import PartyBridge.Proofs.Session.Report
import PartyBridge.Proofs.Session.Scripts
import PartyBridge.Proofs.Session.Stage
import PartyBridge.Proofs.Session.Surroundings
import PartyBridge.Proofs.Session.Turns
import PartyBridge.Proofs.Session.Twins
import PartyBridge.Proofs.Session.Views
import PartyBridge.Proofs.Text.Blank
import PartyBridge.Proofs.Text.Integer
import PartyBridge.Proofs.Text.Quoting
import PartyBridge.Proofs.Text.Trimming
import PartyBridge.Proofs.Text.Utf8
import PartyBridge.Proofs.Text.Words
import PartyBridge.Session.Capture
import PartyBridge.Session.Course
import PartyBridge.Session.Lifecycle
import PartyBridge.Session.Scene
import PartyBridge.Session.Stage
import PartyBridge.Shell.Arithmetic
import PartyBridge.Shell.Builtin.Arguments
import PartyBridge.Shell.Builtin.Control
import PartyBridge.Shell.Builtin.Dispatch
import PartyBridge.Shell.Builtin.Lookup
import PartyBridge.Shell.Builtin.Place
import PartyBridge.Shell.Builtin.Signals
import PartyBridge.Shell.Builtin.Variables
import PartyBridge.Shell.Evaluate
import PartyBridge.Shell.Expansion
import PartyBridge.Shell.Fields
import PartyBridge.Shell.FileNames
import PartyBridge.Shell.Grammar
import PartyBridge.Shell.Input
import PartyBridge.Shell.Jobs
import PartyBridge.Shell.Launch
import PartyBridge.Shell.Pattern
import PartyBridge.Shell.Print
import PartyBridge.Shell.Redirection
import PartyBridge.Shell.Scan
import PartyBridge.Shell.Start
import PartyBridge.Shell.State
import PartyBridge.Shell.Step
import PartyBridge.Shell.Syntax
import PartyBridge.Shell.Test
import PartyBridge.Text.Blank
import PartyBridge.Text.ControlSequence
import PartyBridge.Text.Integer
import PartyBridge.Text.Quoted
import PartyBridge.Text.Utf8
import PartyBridge.Text.Words
import PartyBridge.Tool.Options
import PartyBridge.Tool.Regex
import PartyBridge.Tool.RegexReader
import PartyBridge.Tool.Running
import PartyBridge.Tool.Sed.CommandLine
import PartyBridge.Tool.Sed.Editor
import PartyBridge.Tool.Sed.Script
import PartyBridge.Tool.Sleep
import PartyBridge.Tool.Stream
import PartyBridge.Tool.Talk
import PartyBridge.Tool.Transliteration
import PartyBridge.ValueQueue
