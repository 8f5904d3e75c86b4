import Autopilot.Json.Reader
import Autopilot.Json.Writer
import Autopilot.Text.Blank
import Autopilot.Text.Quoted
import Autopilot.Text.LowerCase
import Autopilot.Instant.Timestamp
import Autopilot.Record
import Autopilot.Condition
import Autopilot.Input
import Autopilot.Command
import Autopilot.Session
import Autopilot.Store
import Autopilot.Sequence
import Autopilot.Sequence.Block
import Autopilot.Sequence.Result
import Autopilot.Sequence.Gate
import Autopilot.Sequence.Loop
import Autopilot.Record.Lemmas
import Autopilot.Sequence.Block.Nesting
import Autopilot.Sequence.Execution
import Autopilot.Trigger
import Autopilot.Command.Error
import Autopilot.Dialogue
import Autopilot.Trigger.Coordinator
import Autopilot.Trigger.Poller
import Autopilot.Command.Execution
import Autopilot.Command.Gated
import Autopilot.Rehearsal.Script
import Autopilot.Rehearsal.World
import Autopilot.Rehearsal.Hooks
import Autopilot.Rehearsal.Polling
import Autopilot.Config
import Autopilot.Yaml.Cursor
import Autopilot.Yaml.Scalar.Gap
import Autopilot.Yaml.Scalar.Plain
import Autopilot.Yaml.Scalar.Quoted
import Autopilot.Yaml.Scalar.Block
import Autopilot.Yaml.Token
import Autopilot.Yaml.Token.Lexer
import Autopilot.Yaml.Document
import Autopilot.Decimal.Reading
import Autopilot.Yaml
import Autopilot.Config.Loader
import Autopilot.CommandLine
import Autopilot.Main
import Autopilot.Proofs.Sequence.Composition
import Autopilot.Proofs.Sequence.Parts
import Autopilot.Proofs.Sequence.Outcome
import Autopilot.Proofs.Sequence.Patience
import Autopilot.Proofs.Sequence.Cancellation
import Autopilot.Proofs.Store
import Autopilot.Proofs.Dialogue
import Autopilot.Proofs.Instant
import Autopilot.Proofs.Trigger.Rewriting
import Autopilot.Proofs.Trigger.Evaluation
import Autopilot.Proofs.Trigger.Operation
import Autopilot.Proofs.Trigger.Interleaving
import Autopilot.Proofs.Trigger.Cooldown
import Autopilot.Proofs.Command.Graph
import Autopilot.Proofs.Command.Traversal
import Autopilot.Proofs.Command.Run
import Autopilot.Proofs.Command.Sending
import Autopilot.Proofs.Command.Cycle
import Autopilot.Proofs.Command.Scene
import Autopilot.Proofs.Command.Missing
import Autopilot.Proofs.Path
import Autopilot.Proofs.Config.RootFile
import Autopilot.Proofs.Sequence.Invariant
import Autopilot.Proofs.Sequence.Interruption
import Autopilot.Proofs.Sequence.Attempts
import Autopilot.Proofs.Sequence.Extent
import Autopilot.Proofs.Sequence.Termination
import Autopilot.Proofs.Sequence.Framing
import Autopilot.Proofs.Sequence.Segments
import Autopilot.Proofs.Sequence.Mirror
import Autopilot.Proofs.Trigger.Polling
import Autopilot.Proofs.Trigger.Pass
import Autopilot.Proofs.Instant.Calendar
import Autopilot.Proofs.Instant.Timestamp
import Autopilot.Proofs.Finite
import Autopilot.Proofs.Json
import Autopilot.Proofs.Datum
import Autopilot.Proofs.Json.Reader
import Autopilot.Proofs.Record
import Autopilot.Proofs.Condition
import Autopilot.Proofs.Sequence.Writing
import Autopilot.Proofs.Trigger.Writing
import Autopilot.Proofs.Input
import Autopilot.Proofs.Config.Writing
import Autopilot.Proofs.Config.Contents
import Autopilot.Proofs.Config.Circle
import Autopilot.Proofs.Service
import Autopilot.Proofs.Config.Includer
import Autopilot.Proofs.Trigger.Turns
import Autopilot.Proofs.Trigger.History
import Autopilot.Proofs.FailClosed
import Autopilot.Proofs.Sequence.Chronicle
import Autopilot.Proofs.Sequence.Counters
import Autopilot.Proofs.Sequence.Charges
import Autopilot.Proofs.Sequence.Deadline
import Autopilot.Proofs.Sequence.Polls
import Autopilot.Proofs.Sequence.Acceptance
import Autopilot.Proofs.Sequence.Reports
import Autopilot.Proofs.Sequence.Cutting
import Autopilot.Proofs.Command.Interruption
import Autopilot.Proofs.Trigger.Elapsing
import Autopilot.Proofs.Trigger.Pacing
import Autopilot.Proofs.Config.Reuse
import Autopilot.Proofs.Config.Seeding
import Autopilot.Proofs.Sequence.Tags
import Autopilot.Proofs.Sequence.Questions
import Autopilot.Proofs.Sequence.Settlement
