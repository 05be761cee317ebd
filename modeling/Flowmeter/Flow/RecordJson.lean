-- SUMMARY: The JSON form of flow records.
import Flowmeter.Flow.Record
import Flowmeter.Json.Reader

/-!
# Records as JSON

A record is written as one compact object with its fields in the order of
declaration. Addresses are texts, a time is an object of seconds and
nanoseconds after the Unix epoch, and a protocol without a name is an object
with its number.

Reading accepts objects with the fields in any order and unknown fields among
them, and arrays of the fields' values. Times know no other fields.
-/

namespace Flowmeter

/-! ## Writing -/

namespace Json

/-- A member of an object: a name, which needs no escapes, and the text of its value. -/
def member (name : String) (value : List Char) : List Char :=
  '"' :: name.toList ++ ['"', ':'] ++ value

def objectChars (members : List (List Char)) : List Char :=
  '\x7b' :: [','].intercalate members ++ ['\x7d']

def natChars (n : Nat) : List Char := Text.digits 10 n

def nameChars (name : List Char) : List Char := '"' :: name ++ ['"']

end Json

open Json

namespace Protocol

def jsonChars : Protocol → List Char
  | .other n => objectChars [member "Other" (natChars n.toNat)]
  | p => nameChars p.text.toList

end Protocol

namespace FlowId

def jsonChars (id : FlowId) : List Char :=
  objectChars [
    member "eth_protocol" (natChars id.ethProtocol.toNat),
    member "direction" (nameChars id.direction.name.toList),
    member "src_mac" (nameChars id.srcMac.chars),
    member "dst_mac" (nameChars id.dstMac.chars),
    member "src_addr" (nameChars id.srcAddr.chars),
    member "dst_addr" (nameChars id.dstAddr.chars),
    member "src_port" (natChars id.srcPort.toNat),
    member "dst_port" (natChars id.dstPort.toNat),
    member "protocol" id.protocol.jsonChars,
    member "icmp_type" (natChars id.icmpType.toNat),
    member "icmp_code" (natChars id.icmpCode.toNat),
    member "if_index" (natChars id.ifIndex.toNat)]

end FlowId

namespace Metrics

def jsonChars (m : Metrics) : List Char :=
  objectChars [
    member "packets" (natChars m.packets.toNat),
    member "bytes" (natChars m.bytes.toNat),
    member "start" (natChars m.start.toNat),
    member "end" (natChars m.finish.toNat),
    member "flags" (natChars m.flags.toNat),
    member "errno" (natChars m.errno.toNat)]

end Metrics

/-- A time before the Unix epoch has no JSON form. -/
inductive RecordJsonError where
  | beforeEpoch
deriving DecidableEq

def RecordJsonError.message : RecordJsonError → String
  | .beforeEpoch => "SystemTime must be later than UNIX_EPOCH"

namespace WallTime

def jsonChars (t : WallTime) : Except RecordJsonError (List Char) :=
  if t < 0 then .error .beforeEpoch
  else .ok (objectChars [
    member "secs_since_epoch" (natChars (t.toNat / nanosPerSecond)),
    member "nanos_since_epoch" (natChars (t.toNat % nanosPerSecond))])

end WallTime

namespace Record

def jsonChars (r : Record) : Except RecordJsonError (List Char) := do
  let started ← WallTime.jsonChars r.started
  let ended ← WallTime.jsonChars r.ended
  return objectChars [
    member "id" r.id.jsonChars,
    member "metrics" r.metrics.jsonChars,
    member "time_flow_start" started,
    member "time_flow_end" ended,
    member "interface" (quoteChars r.interface),
    member "agent_ip" (nameChars r.agentIp.chars),
    member "duplicate" (if r.duplicate then "true".toList else "false".toList)]

def json (r : Record) : Except RecordJsonError String := return String.ofList (← r.jsonChars)

end Record

/-- The JSON array of a batch. -/
def Batch.json (batch : Batch) : Except RecordJsonError String := do
  let records ← batch.mapM Record.jsonChars
  return String.ofList ('[' :: [','].intercalate records ++ [']'])

/-! ## Reading -/

namespace Json

/-- The value of the one member called `name`. -/
def only? (name : String) (members : List (Option String × Json)) : Option Json :=
  match members.filter fun m => m.1 == some name with
  | [(_, value)] => some value
  | _ => none

/-- The values of the fields `names`, from an object that has each of them once
or from an array of exactly as many items. `closed` objects have no other members. -/
def fields? (closed : Bool) (names : List String) : Json → Option (List Json)
  | .array items => if items.length = names.length then some items else none
  | .object members =>
    let known := fun (m : Option String × Json) =>
      match m.1 with
      | none => false
      | some key => !closed || names.contains key
    if members.all known then names.mapM (only? · members) else none
  | _ => none

def nat? (limit : Nat) : Json → Option Nat
  | .natural n => if n < limit then some n else none
  | _ => none

def u8? (j : Json) : Option UInt8 := (j.nat? UInt8.size).map UInt8.ofNat

def u16? (j : Json) : Option UInt16 := (j.nat? UInt16.size).map UInt16.ofNat

def u32? (j : Json) : Option UInt32 := (j.nat? UInt32.size).map UInt32.ofNat

def u64? (j : Json) : Option UInt64 := (j.nat? UInt64.size).map UInt64.ofNat

def bool? : Json → Option Bool
  | .bool b => some b
  | _ => none

def text? : Json → Option String
  | .string s => s
  | _ => none

def mac? (j : Json) : Option Mac := j.text?.bind Mac.ofText?

def ip? (j : Json) : Option IpAddr := j.text?.bind IpAddr.ofText?

/-- The name of a choice without content, alone or as an object with a null. -/
def choice? : Json → Option String
  | .string s => s
  | .object [(name, .null)] => name
  | _ => none

def direction? (j : Json) : Option Direction := do
  let name ← j.choice?
  [Direction.ingress, .egress, .unknown].find? (·.name == name)

def protocol? : Json → Option Protocol
  | .object [(some "Other", content)] => (content.u8?).map .other
  | j => do
    let name ← j.choice?
    [Protocol.icmp, .tcp, .udp, .icmpv6].find? (·.text == name)

end Json

namespace FlowId

def fieldNames : List String :=
  ["eth_protocol", "direction", "src_mac", "dst_mac", "src_addr", "dst_addr", "src_port",
    "dst_port", "protocol", "icmp_type", "icmp_code", "if_index"]

def ofJson? (j : Json) : Option FlowId := do
  match ← j.fields? false fieldNames with
  | [ethProtocol, direction, srcMac, dstMac, srcAddr, dstAddr, srcPort, dstPort, protocol,
      icmpType, icmpCode, ifIndex] =>
    return {
      ethProtocol := ← ethProtocol.u16?
      direction := ← direction.direction?
      srcMac := ← srcMac.mac?
      dstMac := ← dstMac.mac?
      srcAddr := ← srcAddr.ip?
      dstAddr := ← dstAddr.ip?
      srcPort := ← srcPort.u16?
      dstPort := ← dstPort.u16?
      protocol := ← protocol.protocol?
      icmpType := ← icmpType.u8?
      icmpCode := ← icmpCode.u8?
      ifIndex := ← ifIndex.u32? }
  | _ => none

end FlowId

namespace Metrics

def fieldNames : List String := ["packets", "bytes", "start", "end", "flags", "errno"]

def ofJson? (j : Json) : Option Metrics := do
  match ← j.fields? false fieldNames with
  | [packets, bytes, start, finish, flags, errno] =>
    return {
      packets := ← packets.u32?
      bytes := ← bytes.u64?
      start := ← start.u64?
      finish := ← finish.u64?
      flags := ← flags.u16?
      errno := ← errno.u8? }
  | _ => none

end Metrics

namespace WallTime

/-- Nanoseconds of a second or more carry into the seconds, which must stay
below 2 ^ 63. -/
def ofJson? (j : Json) : Option WallTime := do
  match ← j.fields? true ["secs_since_epoch", "nanos_since_epoch"] with
  | [seconds, nanos] =>
    let total := (← seconds.nat? UInt64.size) * nanosPerSecond + (← nanos.nat? UInt32.size)
    if total < UInt64.size / 2 * nanosPerSecond then return (total : Int) else none
  | _ => none

end WallTime

namespace Record

def fieldNames : List String :=
  ["id", "metrics", "time_flow_start", "time_flow_end", "interface", "agent_ip", "duplicate"]

def ofJson? (j : Json) : Option Record := do
  match ← j.fields? false fieldNames with
  | [id, metrics, started, ended, interface, agentIp, duplicate] =>
    return {
      id := ← FlowId.ofJson? id
      metrics := ← Metrics.ofJson? metrics
      started := ← WallTime.ofJson? started
      ended := ← WallTime.ofJson? ended
      interface := ← interface.text?
      agentIp := ← agentIp.ip?
      duplicate := ← duplicate.bool? }
  | _ => none

/-- Reads the JSON text of a record. -/
def ofText? (s : String) : Option Record := (Json.ofChars? s.toList).bind ofJson?

end Record

end Flowmeter
