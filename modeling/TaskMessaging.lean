import TaskMessaging.Binary64
import TaskMessaging.Catalog
import TaskMessaging.Clock
import TaskMessaging.Config.Basic
import TaskMessaging.Config.Json
import TaskMessaging.Config.Load
import TaskMessaging.Config.Reader
import TaskMessaging.Config.SourceFile
import TaskMessaging.Control.Dispatcher
import TaskMessaging.Control.Error
import TaskMessaging.Control.Event
import TaskMessaging.Control.Signal
import TaskMessaging.Control.SystemError
import TaskMessaging.Control.Thread
import TaskMessaging.Decimal
import TaskMessaging.Diagnostics.Binding
import TaskMessaging.Diagnostics.Channel
import TaskMessaging.Diagnostics.Feed
import TaskMessaging.Diagnostics.Listener
import TaskMessaging.Diagnostics.Service
import TaskMessaging.Envelope
import TaskMessaging.Heartbeat
import TaskMessaging.Ident
import TaskMessaging.Json.Parse
import TaskMessaging.Json.Render
import TaskMessaging.Json.Token
import TaskMessaging.Json.Value
import TaskMessaging.Limits
import TaskMessaging.Log
import TaskMessaging.Log.Line
import TaskMessaging.Main
import TaskMessaging.Metrics
import TaskMessaging.Node.Arguments
import TaskMessaging.Node.LogFilter
import TaskMessaging.Node.Run
import TaskMessaging.Pool.Allocator
import TaskMessaging.Pool.Error
import TaskMessaging.Pool.Handle
import TaskMessaging.Pool.Narration
import TaskMessaging.Pool.SizeClass
import TaskMessaging.Pool.Statistics
import TaskMessaging.Proofs.Config.Json
import TaskMessaging.Proofs.Config.Layer
import TaskMessaging.Proofs.Config.Leaf
import TaskMessaging.Proofs.Config.Load
import TaskMessaging.Proofs.Config.Reader
import TaskMessaging.Proofs.Control.Counters
import TaskMessaging.Proofs.Control.Dispatcher
import TaskMessaging.Proofs.Control.Loop
import TaskMessaging.Proofs.Control.Notice
import TaskMessaging.Proofs.Control.Oblivious
import TaskMessaging.Proofs.Control.Operation
import TaskMessaging.Proofs.Control.Policy
import TaskMessaging.Proofs.Control.SignalSource
import TaskMessaging.Proofs.Control.Tap
import TaskMessaging.Proofs.Diagnostics.Books
import TaskMessaging.Proofs.Diagnostics.Channel
import TaskMessaging.Proofs.Diagnostics.Clients
import TaskMessaging.Proofs.Diagnostics.Slots
import TaskMessaging.Proofs.Diagnostics.Stream
import TaskMessaging.Proofs.FirstRun
import TaskMessaging.Proofs.Heartbeat
import TaskMessaging.Proofs.Ident
import TaskMessaging.Proofs.Json.Exact
import TaskMessaging.Proofs.Json.Grammar
import TaskMessaging.Proofs.Json.Line
import TaskMessaging.Proofs.Json.Numeral
import TaskMessaging.Proofs.Json.Quoted
import TaskMessaging.Proofs.Json.Record
import TaskMessaging.Proofs.Pool.Allocator
import TaskMessaging.Proofs.Pool.BestFit
import TaskMessaging.Proofs.Pool.Bookkeeping
import TaskMessaging.Proofs.Pool.Contents
import TaskMessaging.Proofs.Pool.Copy
import TaskMessaging.Proofs.Pool.Effect
import TaskMessaging.Proofs.Pool.Generation
import TaskMessaging.Proofs.Pool.HandOut
import TaskMessaging.Proofs.Pool.Independence
import TaskMessaging.Proofs.Pool.Item
import TaskMessaging.Proofs.Pool.Run
import TaskMessaging.Proofs.Pool.SizeClass
import TaskMessaging.Proofs.Pool.Stack
import TaskMessaging.Proofs.Pool.Validation
import TaskMessaging.Proofs.Record
import TaskMessaging.Proofs.Task.Registry
import TaskMessaging.Proofs.TaskSystem.Broadcast
import TaskMessaging.Proofs.TaskSystem.Clients
import TaskMessaging.Proofs.TaskSystem.Configured
import TaskMessaging.Proofs.TaskSystem.Core
import TaskMessaging.Proofs.TaskSystem.Counters
import TaskMessaging.Proofs.TaskSystem.Delivery
import TaskMessaging.Proofs.TaskSystem.Escalation
import TaskMessaging.Proofs.TaskSystem.Independence
import TaskMessaging.Proofs.TaskSystem.Mail
import TaskMessaging.Proofs.TaskSystem.Oblivious
import TaskMessaging.Proofs.TaskSystem.Offer
import TaskMessaging.Proofs.TaskSystem.Operation
import TaskMessaging.Proofs.TaskSystem.Ownership
import TaskMessaging.Proofs.TaskSystem.Release
import TaskMessaging.Proofs.TaskSystem.Retry
import TaskMessaging.Proofs.TaskSystem.Sharing
import TaskMessaging.Proofs.TaskSystem.Tap
import TaskMessaging.Proofs.TaskSystem.Unregister
import TaskMessaging.Proofs.Timer.Expiry
import TaskMessaging.Proofs.Timer.Index
import TaskMessaging.Proofs.Timer.Life
import TaskMessaging.Proofs.Timer.Period
import TaskMessaging.Proofs.Timer.Run
import TaskMessaging.Proofs.Timer.Schedule
import TaskMessaging.Proofs.Timer.Table
import TaskMessaging.Proofs.Timer.Traffic
import TaskMessaging.Record
import TaskMessaging.Setting.Basic
import TaskMessaging.Setting.Json
import TaskMessaging.Setting.Path
import TaskMessaging.Setting.Read
import TaskMessaging.Task.Error
import TaskMessaging.Task.Mailbox
import TaskMessaging.Task.Registry
import TaskMessaging.TaskSystem.Basic
import TaskMessaging.TaskSystem.Context
import TaskMessaging.TaskSystem.Delivery
import TaskMessaging.TaskSystem.Threads
import TaskMessaging.Text.Class
import TaskMessaging.Text.Column
import TaskMessaging.Text.Hex
import TaskMessaging.Text.Lower
import TaskMessaging.Text.Quoted
import TaskMessaging.Text.Split
import TaskMessaging.Timer.Expiry
import TaskMessaging.Timer.Service
import TaskMessaging.Timer.Table
import TaskMessaging.Toml.Blank
import TaskMessaging.Toml.Document
import TaskMessaging.Toml.Moment
import TaskMessaging.Toml.Number
import TaskMessaging.Toml.Quoted
import TaskMessaging.Toml.Table
import TaskMessaging.Toml.Value
import TaskMessaging.Word
import TaskMessaging.Yaml.Document
import TaskMessaging.Yaml.Scalar
