-- SUMMARY: Raw records as the probe reports them, and flow records as exporters receive them.
import Flowmeter.Flow.Id
import Flowmeter.Flow.Metrics
import Flowmeter.Time.Duration

/-!
# Records
-/

namespace Flowmeter

/-- One sample of a flow as the probe reports it. -/
structure RawRecord where
  id : FlowId
  metrics : Metrics
deriving DecidableEq

/-- A flow as it is handed to an exporter. -/
structure Record where
  id : FlowId
  metrics : Metrics
  /-- Wall time of the first packet. -/
  started : WallTime
  /-- Wall time of the last packet. -/
  ended : WallTime
  /-- Name of the interface the flow was seen on, empty until it is decorated. -/
  interface : String
  agentIp : IpAddr
  /-- Set when another interface owns the flow. -/
  duplicate : Bool
deriving DecidableEq

abbrev Batch := List Record

namespace Record

/-- A record that is not decorated yet. -/
def ofMetrics (clock : Clock) (id : FlowId) (metrics : Metrics) : Record where
  id := id
  metrics := metrics
  started := clock.wall metrics.start
  ended := clock.wall metrics.finish
  interface := ""
  agentIp := .unspecified
  duplicate := false

end Record

/-- The batch in the order of its identities; records of one identity keep their order. -/
def Batch.sortById (batch : Batch) : Batch := batch.mergeSort fun a b => a.id.le b.id

end Flowmeter
