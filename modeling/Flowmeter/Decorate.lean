-- SUMMARY: Decoration of records with the interface name and the agent's address.
import Flowmeter.Flow.Record
import Flowmeter.Link.Table

/-!
# Decoration

Before a record is exported it receives the name of its interface, or an
empty name for an interface that is not in the table, and the address of the
agent.
-/

namespace Flowmeter

structure Decorator where
  links : Link.Table
  agentIp : IpAddr

namespace Decorator

def decorate (d : Decorator) (r : Record) : Record :=
  { r with interface := (d.links.lookup r.id.ifIndex).getD "", agentIp := d.agentIp }

def decorateAll (d : Decorator) (batch : Batch) : Batch := batch.map d.decorate

end Decorator

end Flowmeter
