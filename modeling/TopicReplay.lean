import TopicReplay.Arguments.Grammar
import TopicReplay.Arguments.Reader
import TopicReplay.Arguments.Usage
import TopicReplay.Broker.Basic
import TopicReplay.Broker.Canned
import TopicReplay.Broker.Error
import TopicReplay.Broker.Log
import TopicReplay.Broker.Property
import TopicReplay.Broker.Unreachable
import TopicReplay.Checkpoint.Basic
import TopicReplay.Checkpoint.Error
import TopicReplay.Checkpoint.Selection
import TopicReplay.Checkpoint.Span
import TopicReplay.Command.Error
import TopicReplay.Command.Options
import TopicReplay.Command.Run
import TopicReplay.Config.Basic
import TopicReplay.Config.Error
import TopicReplay.Config.Load
import TopicReplay.Config.Reading
import TopicReplay.Config.Variables
import TopicReplay.Consumer.Basic
import TopicReplay.Consumer.Bounds
import TopicReplay.Consumer.Channel
import TopicReplay.Consumer.Step
import TopicReplay.Decimal.Numeral
import TopicReplay.Decimal.Shortest
import TopicReplay.Disk
import TopicReplay.Error
import TopicReplay.Event
import TopicReplay.Event.Json
import TopicReplay.Event.Line
import TopicReplay.Json.Draft
import TopicReplay.Json.Overlay
import TopicReplay.Json.Reader
import TopicReplay.Json.Value
import TopicReplay.Lag
import TopicReplay.Main
import TopicReplay.OrderedMap
import TopicReplay.Partition
import TopicReplay.Pattern.Basic
import TopicReplay.Pattern.Parser
import TopicReplay.RemoteOffset
import TopicReplay.Replay
import TopicReplay.Session.Basic
import TopicReplay.Session.Commit
import TopicReplay.Session.Crew
import TopicReplay.Session.Start
import TopicReplay.Session.Supervise
import TopicReplay.Time.Moment
import TopicReplay.Session.Limits
import TopicReplay.Simulation
import TopicReplay.Stats
import TopicReplay.Store.Basic
import TopicReplay.Store.Error
import TopicReplay.Store.Filter
import TopicReplay.Store.Listing
import TopicReplay.Store.Memory
import TopicReplay.Store.Record
import TopicReplay.Store.Snapshot
import TopicReplay.Store.Tree
import TopicReplay.Text.Blank
import TopicReplay.Text.CharSet
import TopicReplay.Text.Colours
import TopicReplay.Text.Hex
import TopicReplay.Text.Integer
import TopicReplay.Text.Lines
import TopicReplay.Text.Style
import TopicReplay.Text.Unicode.Category
import TopicReplay.Text.Unicode.Fold
import TopicReplay.Text.Unicode.Property
import TopicReplay.Text.Unicode.Ranges
import TopicReplay.Text.Unicode.Script
import TopicReplay.Text.Utf8
import TopicReplay.Text.Word
import TopicReplay.Time.Calendar
import TopicReplay.Time.Instant
import TopicReplay.Time.Layout
import TopicReplay.Time.Rfc3339
import TopicReplay.Yaml.Place
import TopicReplay.Yaml.Reader
import TopicReplay.Yaml.Scalar
import TopicReplay.Yaml.Text
import TopicReplay.Proofs.Store.Lawful
import TopicReplay.Proofs.Broker.Dense
import TopicReplay.Proofs.Broker.Ordered
import TopicReplay.Proofs.Broker.Sound
import TopicReplay.Proofs.Consumer.Move
import TopicReplay.Proofs.Session.Overlap
import TopicReplay.Proofs.Session.Crew
import TopicReplay.Proofs.Session.Supervised
import TopicReplay.Proofs.Session.Scene
import TopicReplay.Proofs.Session.Begin
import TopicReplay.Proofs.Session.Conserved
import TopicReplay.Proofs.Session.Counted
import TopicReplay.Proofs.Session.Summary
import TopicReplay.Proofs.Session.InOrder
import TopicReplay.Proofs.Replay.Move
import TopicReplay.Proofs.Replay.Stage
import TopicReplay.Proofs.Replay.Record
import TopicReplay.Proofs.Broker.Part
import TopicReplay.Proofs.Consumer.Fate
import TopicReplay.Proofs.Consumer.Alone
import TopicReplay.Proofs.Session.Frame
import TopicReplay.Proofs.Session.FanIn
import TopicReplay.Proofs.Session.Fair
import TopicReplay.Proofs.Session.Plan
import TopicReplay.Proofs.Consumer.Remainder
import TopicReplay.Proofs.Consumer.Gapless
import TopicReplay.Proofs.Session.Gapless
import TopicReplay.Proofs.Replay.Resume
import TopicReplay.Proofs.Consumer.Exposed
import TopicReplay.Proofs.Consumer.Newest
import TopicReplay.Proofs.Session.Stuck
import TopicReplay.Proofs.Replay.ClosedOutput
import TopicReplay.Proofs.Session.Ledger
import TopicReplay.Proofs.Session.Draining
import TopicReplay.Proofs.Session.Chronicle
import TopicReplay.Proofs.Session.Noted
import TopicReplay.Proofs.Session.Truthful
import TopicReplay.Proofs.Session.Calls
import TopicReplay.Proofs.Session.Lifecycle
import TopicReplay.Proofs.Session.Lifespan
import TopicReplay.Proofs.Text.Integer
import TopicReplay.Proofs.Text.Utf8
import TopicReplay.Proofs.Text.Word
import TopicReplay.Proofs.Time.Calendar
import TopicReplay.Proofs.Time.Instant
import TopicReplay.Proofs.Time.Layout
import TopicReplay.Proofs.Store.Record
import TopicReplay.Proofs.Store.Memory
import TopicReplay.Proofs.Store.Tree
import TopicReplay.Proofs.Store.Database
import TopicReplay.Proofs.Store.History
import TopicReplay.Proofs.Store.Agreement
import TopicReplay.Proofs.Checkpoint.Selection
import TopicReplay.Proofs.Store.Forest
import TopicReplay.Proofs.Store.Traffic
import TopicReplay.Proofs.Replay.Flush
import TopicReplay.Proofs.Session.Idle
import TopicReplay.Proofs.Store.Codec
import TopicReplay.Proofs.Consumer.Stream
import TopicReplay.Proofs.Text.Blank
import TopicReplay.Proofs.Time.Apart
import TopicReplay.Proofs.Checkpoint.Grammar
import TopicReplay.Proofs.Time.Spelling
import TopicReplay.Proofs.Checkpoint.RoundTrip
import TopicReplay.Proofs.Broker.Operation
import TopicReplay.Proofs.Broker.Audience
import TopicReplay.Proofs.Session.Inquiry
import TopicReplay.Proofs.Session.CatchUp
import TopicReplay.Proofs.Checkpoint.Runnable
import TopicReplay.Proofs.Session.Runnable
import TopicReplay.Proofs.Store.Contents
import TopicReplay.Proofs.Store.Damage
import TopicReplay.Proofs.Lag
import TopicReplay.Proofs.Json.Reader
import TopicReplay.Proofs.Event.Line
import TopicReplay.Proofs.Replay.Output
import TopicReplay.Proofs.Json.Skipping
import TopicReplay.Proofs.Event.Json
import TopicReplay.Proofs.Store.Clearing
import TopicReplay.Proofs.Session.Limits
import TopicReplay.Proofs.Json.Overlay
import TopicReplay.Proofs.Yaml.Reader
import TopicReplay.Proofs.Config.Path
import TopicReplay.Proofs.Config.Variables
import TopicReplay.Proofs.Config.Setting
import TopicReplay.Proofs.Config.Load
import TopicReplay.Proofs.Store.Listing
