import MessageChannels.Dictionary
import MessageChannels.Time.Calendar
import MessageChannels.Time.Span
import MessageChannels.Time.Timestamp
import MessageChannels.Time.ManualClock
import MessageChannels.Text.Utf8
import MessageChannels.Text.Failure
import MessageChannels.Text.Quoted
import MessageChannels.Binary64.Shortest
import MessageChannels.Json.Shape
import MessageChannels.Registry
import MessageChannels.DeadLetter
import MessageChannels.Error
import MessageChannels.Cancellation
import MessageChannels.Retry
import MessageChannels.Broker
import MessageChannels.Lifecycle
import MessageChannels.Envelope
import MessageChannels.Service.Topology
import MessageChannels.Service.Dispatch
import MessageChannels.System.Operation
import MessageChannels.Worker
import MessageChannels.Rehearsal.Script
import MessageChannels.Rehearsal.Answer
import MessageChannels.Rehearsal.Routine
import MessageChannels.Rehearsal.Run
import MessageChannels.Json.Keyed
import MessageChannels.Proofs.Delivery.AtLeastOnce
import MessageChannels.Proofs.Envelope.Settlement
import MessageChannels.Proofs.Envelope.DeadLetter
import MessageChannels.Proofs.Delivery.RetryRun
import MessageChannels.Proofs.Broker.Origin
import MessageChannels.Proofs.System.Lasting
import MessageChannels.Proofs.Service.Closed
import MessageChannels.Proofs.Dispatch.Handlers
import MessageChannels.Proofs.Dispatch.Permits
import MessageChannels.Proofs.Dispatch.Stopping
import MessageChannels.Proofs.Broker.Wakeups
import MessageChannels.Proofs.Topology.Chore
import MessageChannels.Proofs.Topology.Unhindered
import MessageChannels.Proofs.Topology.Reconciliation
import MessageChannels.Proofs.Topology.Deletion
import MessageChannels.Proofs.Topology.Together
import MessageChannels.Proofs.Service.Causes
import MessageChannels.Proofs.Envelope.Lineage
import MessageChannels.Proofs.Service.PublishedEvent
import MessageChannels.Proofs.Lifecycle.Startup
import MessageChannels.Proofs.Service.Counters
import MessageChannels.Proofs.Broker.Frozen
import MessageChannels.Proofs.Dispatch.Intake
import MessageChannels.Proofs.Dispatch.Collecting
import MessageChannels.Proofs.Dispatch.Sources
import MessageChannels.Proofs.Dispatch.Batch
import MessageChannels.Proofs.Dispatch.Handover
import MessageChannels.Proofs.Dispatch.Dispatched
import MessageChannels.Proofs.Lifecycle.RetryLoop
import MessageChannels.Proofs.Lifecycle.Order
import MessageChannels.Proofs.Topology.Closing
import MessageChannels.Proofs.Time.RetryDecision
import MessageChannels.Proofs.Broker.Failures
import MessageChannels.Proofs.Broker.QueueOrder
import MessageChannels.Proofs.Worker.Handling
import MessageChannels.Proofs.Text.Truncation
import MessageChannels.Proofs.Registry
import MessageChannels.Proofs.Lifecycle.Delay
import MessageChannels.Proofs.Cancellation.Tasks
import MessageChannels.Proofs.DeadLetter
import MessageChannels.Proofs.Time.ManualClock
