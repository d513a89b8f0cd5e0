import AgentRuns.Dashboard
import AgentRuns.Event.Check
import AgentRuns.Main
import AgentRuns.Proofs.Transcript.Exclusion
import AgentRuns.Proofs.Transcript.ForeignBlocks
import AgentRuns.Proofs.Transcript.Growth
import AgentRuns.Proofs.Transcript.Headings
import AgentRuns.Proofs.Transcript.MixedBatch
import AgentRuns.Proofs.Transcript.Placement
import AgentRuns.Proofs.Transcript.Refusal
import AgentRuns.Proofs.Transcript.RoundTrip
import AgentRuns.Run.Status
import AgentRuns.Telemetry.Endpoint
import AgentRuns.Proofs.Transcript.Transparency
import AgentRuns.Proofs.Json.RoundTrip
import AgentRuns.Proofs.Run.Amending
import AgentRuns.Proofs.Store.Operations
import AgentRuns.Proofs.Store.Records
import AgentRuns.Proofs.Block.Layout
import AgentRuns.Proofs.Block.Literals
import AgentRuns.Proofs.Store.Chains
import AgentRuns.Proofs.Store.Survival
import AgentRuns.Proofs.Dashboard.Failures
import AgentRuns.Proofs.Store.Lookup
import AgentRuns.Proofs.Event.Progress
import AgentRuns.Proofs.Transcript.Reasoning
import AgentRuns.Proofs.Transcript.Leftovers
import AgentRuns.Proofs.Store.Beginnings
import AgentRuns.Proofs.Inspector.Resolution
import AgentRuns.Proofs.Store.Recovery
import AgentRuns.Proofs.Store.Threads
import AgentRuns.Proofs.Transcript.Damage
import AgentRuns.Proofs.Transcript.Dispatch
import AgentRuns.Proofs.Block.Summaries
import AgentRuns.Proofs.Inspector.Colour
import AgentRuns.Proofs.Event.Statistics
import AgentRuns.Proofs.Telemetry.Completion
import AgentRuns.Proofs.Block.OneReading
import AgentRuns.Proofs.Transcript.Visits
