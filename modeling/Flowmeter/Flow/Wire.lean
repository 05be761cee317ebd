-- SUMMARY: The 89-byte wire form of a raw record: writing it, and reading it field by field.
import Flowmeter.Flow.Record

/-!
# Wire form

A probe event is 89 bytes: 58 for the identity and 31 for the metrics, field
after field in the order of declaration. Numbers are little endian, addresses
are in network order, and a version 4 address is embedded in sixteen octets.
Bytes past the end are ignored.
-/

namespace Flowmeter

abbrev Bytes := List UInt8

/-! ## Little endian numbers -/

namespace Bytes

/-- The number whose least significant byte comes first. -/
def toNatLE : Bytes → Nat
  | [] => 0
  | b :: bs => b.toNat + 256 * toNatLE bs

/-- The `width` low bytes of `n`, least significant first. -/
def ofNatLE : Nat → Nat → Bytes
  | 0, _ => []
  | width + 1, n => UInt8.ofNat n :: ofNatLE width (n / 256)

end Bytes

/-! ## Reading fields one after the other -/

/-- Takes a value off the front of the bytes that are left. -/
abbrev FieldReader := StateT Bytes Option

namespace FieldReader

def take (n : Nat) : FieldReader Bytes := fun bs =>
  if n ≤ bs.length then some (bs.take n, bs.drop n) else none

def octets (n : Nat) : FieldReader (Octets n) := do
  let bs ← take n
  match Octets.ofList? n bs with
  | some os => pure os
  | none => failure

def nat (width : Nat) : FieldReader Nat := return Bytes.toNatLE (← take width)

def u8 : FieldReader UInt8 := return UInt8.ofNat (← nat 1)

def u16 : FieldReader UInt16 := return UInt16.ofNat (← nat 2)

def u32 : FieldReader UInt32 := return UInt32.ofNat (← nat 4)

def u64 : FieldReader UInt64 := return UInt64.ofNat (← nat 8)

def mac : FieldReader Mac := return ⟨← octets 6⟩

def ip : FieldReader IpAddr := return IpAddr.ofV6 ⟨← octets 16⟩

def flowId : FieldReader FlowId := do
  let ethProtocol ← u16
  let direction ← u8
  let srcMac ← mac
  let dstMac ← mac
  let srcAddr ← ip
  let dstAddr ← ip
  let srcPort ← u16
  let dstPort ← u16
  let protocol ← u8
  let icmpType ← u8
  let icmpCode ← u8
  let ifIndex ← u32
  return {
    ethProtocol, direction := Direction.ofCode direction, srcMac, dstMac, srcAddr, dstAddr,
    srcPort, dstPort, protocol := Protocol.ofNumber protocol, icmpType, icmpCode, ifIndex }

def metrics : FieldReader Metrics := do
  let packets ← u32
  let bytes ← u64
  let start ← u64
  let finish ← u64
  let flags ← u16
  let errno ← u8
  return { packets, bytes, start, finish, flags, errno }

def rawRecord : FieldReader RawRecord := return ⟨← flowId, ← metrics⟩

end FieldReader

/-! ## Events -/

/-- An event of `length` bytes is too short to hold a record. -/
structure ShortEvent where
  length : Nat
deriving DecidableEq

namespace RawRecord

def wireSize : Nat := 89

end RawRecord

def ShortEvent.message (e : ShortEvent) : String :=
  "short event: " ++ Text.decimal e.length ++ " < " ++ Text.decimal RawRecord.wireSize ++ " bytes"

namespace FlowId

def encode (id : FlowId) : Bytes :=
  Bytes.ofNatLE 2 id.ethProtocol.toNat
    ++ [id.direction.code]
    ++ id.srcMac.octets.toList
    ++ id.dstMac.octets.toList
    ++ id.srcAddr.toV6.octets.toList
    ++ id.dstAddr.toV6.octets.toList
    ++ Bytes.ofNatLE 2 id.srcPort.toNat
    ++ Bytes.ofNatLE 2 id.dstPort.toNat
    ++ [id.protocol.number, id.icmpType, id.icmpCode]
    ++ Bytes.ofNatLE 4 id.ifIndex.toNat

end FlowId

namespace Metrics

def encode (m : Metrics) : Bytes :=
  Bytes.ofNatLE 4 m.packets.toNat
    ++ Bytes.ofNatLE 8 m.bytes.toNat
    ++ Bytes.ofNatLE 8 m.start.toNat
    ++ Bytes.ofNatLE 8 m.finish.toNat
    ++ Bytes.ofNatLE 2 m.flags.toNat
    ++ [m.errno]

end Metrics

namespace RawRecord

def encode (r : RawRecord) : Bytes := r.id.encode ++ r.metrics.encode

def decode (bs : Bytes) : Except ShortEvent RawRecord :=
  if bs.length < wireSize then .error ⟨bs.length⟩
  else
    match FieldReader.rawRecord bs with
    | some (r, _) => .ok r
    | none => .error ⟨bs.length⟩

end RawRecord

end Flowmeter
