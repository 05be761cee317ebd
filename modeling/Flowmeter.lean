import Flowmeter.Main
import Flowmeter.Pipeline.Bench
import Flowmeter.Proofs.Agent.Conservation
import Flowmeter.Proofs.Agent.Durations
import Flowmeter.Proofs.Agent.Lifecycle
import Flowmeter.Proofs.Agent.Passage
import Flowmeter.Proofs.Agent.Renewal
import Flowmeter.Proofs.Agent.Uniqueness
import Flowmeter.Proofs.Agent.Validation
import Flowmeter.Proofs.Cache.Departures
import Flowmeter.Proofs.Cache.Isolation
import Flowmeter.Proofs.Dedup.Modes
import Flowmeter.Proofs.Dedup.Refeeding
import Flowmeter.Proofs.Dedup.Reordering
import Flowmeter.Proofs.Export.Handover
import Flowmeter.Proofs.Flow.JsonRoundTrip
import Flowmeter.Proofs.Flow.Layout
import Flowmeter.Proofs.Flow.Merging
import Flowmeter.Proofs.Flow.RoundTrip
import Flowmeter.Proofs.Intake.FlushSets
import Flowmeter.Proofs.Intake.Handling
import Flowmeter.Proofs.Intake.Tallies
import Flowmeter.Proofs.Intake.Outages
import Flowmeter.Proofs.Link.Selection
import Flowmeter.Proofs.Link.Sharing
import Flowmeter.Proofs.Pipeline.FirstSeen
import Flowmeter.Proofs.Pipeline.Shutdown
import Flowmeter.Proofs.Pipeline.Ticks
