import HostDispatch.Answer
import HostDispatch.Config.Basic
import HostDispatch.Config.Decode
import HostDispatch.Config.Loop
import HostDispatch.Config.Parse
import HostDispatch.Context
import HostDispatch.Cron.Next
import HostDispatch.Cron.Schedule
import HostDispatch.Data.Json
import HostDispatch.Data.Json.Parse
import HostDispatch.Data.Json.Stream
import HostDispatch.Data.Yaml
import HostDispatch.Data.Yaml.Compose
import HostDispatch.Data.Yaml.Resolve
import HostDispatch.Data.Yaml.Scan
import HostDispatch.Data.Yaml.Value
import HostDispatch.Dispatch.Controller
import HostDispatch.Fault
import HostDispatch.Log.Level
import HostDispatch.Log.Record
import HostDispatch.Metrics.Registry
import HostDispatch.Proofs.Config.Formats
import HostDispatch.Proofs.Config.MemberOrder
import HostDispatch.Proofs.Config.Schema
import HostDispatch.Proofs.Config.Validity
import HostDispatch.Proofs.Cron.Activations
import HostDispatch.Proofs.Cron.Effects
import HostDispatch.Proofs.Cron.Lifecycle
import HostDispatch.Proofs.Dispatch.Failure
import HostDispatch.Proofs.Dispatch.Feed
import HostDispatch.Proofs.Dispatch.Liveness
import HostDispatch.Proofs.Dispatch.Publish
import HostDispatch.Proofs.Fetch.Completion
import HostDispatch.Proofs.Loop.Close
import HostDispatch.Proofs.Loop.Drain
import HostDispatch.Proofs.Loop.Gauge
import HostDispatch.Proofs.Metrics.Series
import HostDispatch.Proofs.Pool.ExactlyOnce
import HostDispatch.Proofs.Pool.Try
import HostDispatch.Proofs.Provider.Lifecycle
import HostDispatch.Proofs.Scenario.Runs
import HostDispatch.Proofs.Scheduler.Advance
import HostDispatch.Proofs.Scheduler.Cancel
import HostDispatch.Proofs.Scheduler.Destroyed
import HostDispatch.Proofs.Scheduler.Firings
import HostDispatch.Proofs.Scheduler.HeapQueue
import HostDispatch.Proofs.Scheduler.Invariant
import HostDispatch.Proofs.Scheduler.Manual
import HostDispatch.Proofs.Scheduler.Order
import HostDispatch.Proofs.Scheduler.Pending
import HostDispatch.Proofs.Scheduler.Port
import HostDispatch.Proofs.Scheduler.Reentry
import HostDispatch.Proofs.Scheduler.Reference
import HostDispatch.Proofs.Scheduler.Representation
import HostDispatch.Proofs.Scheduler.Sift
import HostDispatch.Proofs.Timer.Effects
import HostDispatch.Proofs.Timer.Grid
import HostDispatch.Proofs.Timer.Lifecycle
import HostDispatch.Proofs.Timer.Tokens
import HostDispatch.Provider.Basic
import HostDispatch.Provider.CronTask
import HostDispatch.Provider.Fetch
import HostDispatch.Provider.Timer
import HostDispatch.Publish.Publisher
import HostDispatch.Request.Config
import HostDispatch.Request.Faults
import HostDispatch.Request.Fetch
import HostDispatch.Request.Field
import HostDispatch.Request.Loop
import HostDispatch.Request.Observe
import HostDispatch.Request.Ops
import HostDispatch.Request.Pool
import HostDispatch.Scenario.Delivery
import HostDispatch.Scenario.Run
import HostDispatch.Scenario.Steps
import HostDispatch.Scenario.Tasks
import HostDispatch.Scenario.World
import HostDispatch.Scheduler.Clock
import HostDispatch.Scheduler.Heap
import HostDispatch.Scheduler.Loop
import HostDispatch.Scheduler.Manual
import HostDispatch.Scheduler.Pool
import HostDispatch.Scheduler.Queue
import HostDispatch.Text.Case
import HostDispatch.Text.Decimal
import HostDispatch.Text.Integer
import HostDispatch.Text.Printable
import HostDispatch.Text.Quoted
import HostDispatch.Text.Space
import HostDispatch.Text.Utf8
import HostDispatch.Time.Basic
import HostDispatch.Time.Calendar
import HostDispatch.Time.Duration
import HostDispatch.Time.Zone
import HostDispatch.Time.Zone.Records
import HostDispatch.Time.Zone.Rule
import HostDispatch.Time.Zone.Table
import HostDispatch.Validation
import HostDispatch.Web.Address
import HostDispatch.Web.Exchange
import HostDispatch.Web.Header
import HostDispatch.Web.Url
