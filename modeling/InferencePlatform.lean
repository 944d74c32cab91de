import InferencePlatform.Core.Runs
import InferencePlatform.Batching.Spec
import InferencePlatform.Batching.Invariant
import InferencePlatform.Batching.CapacityLeak
import InferencePlatform.Batching.Progress
import InferencePlatform.Dispatch.Submitter
import InferencePlatform.Dispatch.AtMostOnce
import InferencePlatform.Dispatch.Delivery
import InferencePlatform.ControlPlane.Models
import InferencePlatform.ControlPlane.Queue
import InferencePlatform.ControlPlane.Lifecycle
import InferencePlatform.ControlPlane.Overview
import InferencePlatform.ControlPlane.Intake
import InferencePlatform.ControlPlane.Refinement
import InferencePlatform.ControlPlane.Safety
import InferencePlatform.ControlPlane.Expiry
import InferencePlatform.Scheduling.Policies
import InferencePlatform.Scheduling.Cycle
import InferencePlatform.Gateway.Orchestrator
import InferencePlatform.Gateway.Spec
import InferencePlatform.Batching.Placement
import InferencePlatform.Batching.Room
import InferencePlatform.Gateway.Turns
import InferencePlatform.Gateway.Invariant
import InferencePlatform.Batching.LegalStates
import InferencePlatform.Scheduling.Truth
import InferencePlatform.Core.Triples
import InferencePlatform.ControlPlane.Links
import InferencePlatform.ControlPlane.Capacity
import InferencePlatform.ControlPlane.Duplicates
import InferencePlatform.ControlPlane.Metrics
import InferencePlatform.ControlPlane.Conservation
import InferencePlatform.Streaming.Engine
import InferencePlatform.Streaming.Spec
import InferencePlatform.Streaming.Terminal
import InferencePlatform.Core.EventStream
import InferencePlatform.Streaming.Fidelity
import InferencePlatform.Core.Sql
import InferencePlatform.Persistence.Values
import InferencePlatform.Adapter.Health
import InferencePlatform.ControlPlane.Fifo
import InferencePlatform.Scheduling.Fairness
import InferencePlatform.Adapter.Vllm
import InferencePlatform.Gateway.Responses
import InferencePlatform.Replay.Payload
import InferencePlatform.Replay.RoundTrip
import InferencePlatform.ControlPlane.Annals
import InferencePlatform.ControlPlane.Reports
import InferencePlatform.Observability.Emitters
import InferencePlatform.Replay.Capture
import InferencePlatform.ControlPlane.Changes
import InferencePlatform.Observability.Platform
import InferencePlatform.Replay.History
import InferencePlatform.Observability.Failures
import InferencePlatform.Replay.Recapture
import InferencePlatform.Replay.Reconstruction
import InferencePlatform.Core.KeySort
import InferencePlatform.Persistence.Serialization
import InferencePlatform.Routing.Policies
import InferencePlatform.Batching.FirstRetirement
import InferencePlatform.ControlPlane.Outcome
import InferencePlatform.Dispatch.Failover
import InferencePlatform.Scheduling.Selection
import InferencePlatform.ControlPlane.Atomicity
import InferencePlatform.Adapter.PartialFailure
import InferencePlatform.Adapter.VllmStream
import InferencePlatform.Persistence.Models
import InferencePlatform.Persistence.Repository
import InferencePlatform.Persistence.DurableStore
import InferencePlatform.Gateway.RequestBody
import InferencePlatform.Persistence.Recovery
import InferencePlatform.Persistence.Projection
import InferencePlatform.Persistence.Durability
import InferencePlatform.Scheduling.Entries
import InferencePlatform.Dispatch.Payload
import InferencePlatform.Batching.Replacement
import InferencePlatform.Gateway.Endings
import InferencePlatform.Gateway.SlotRelease
import InferencePlatform.Gateway.Executed
import InferencePlatform.Gateway.QueueItems
import InferencePlatform.Gateway.Completion
import InferencePlatform.Dispatch.Underway
import InferencePlatform.Core.SlotAllocator
import InferencePlatform.Batching.Allocator
import InferencePlatform.Adapter.Submissions
import InferencePlatform.Gateway.Pipeline
import InferencePlatform.Replay.Engine
import InferencePlatform.Replay.Results
import InferencePlatform.Replay.Lineage
import InferencePlatform.Batching.EventLog
import InferencePlatform.Core.SqlEncoding
import InferencePlatform.Persistence.Reads
import InferencePlatform.Persistence.Refinement
import InferencePlatform.Persistence.Isolation
