-- SUMMARY: The JSON text of a flow record is read as the record it was written for.
import Flowmeter.Proofs.Json.Reading

/-!
# Records as JSON, there and back

Each object is given once as the list of its fields. Its text is that of the
fields in order, its value has their values under their names, and what reads
the object finds each of them by name.
-/

namespace Flowmeter

open Json

/-! ## Texts without escapes -/

theorem Mac.plain_chars (mac : Mac) : Plain mac.chars :=
  Plain.intercalate rfl (fun b : UInt8 => Plain.paddedHex 2 b.toNat) mac.octets.toList

theorem Ipv4.plain_chars (addr : Ipv4) : Plain addr.chars :=
  Plain.intercalate rfl (fun b : UInt8 => @Plain.digits 10 (by decide) (by decide) b.toNat)
    addr.octets.toList

theorem Ipv6.plain_groupChars (groups : List Nat) : Plain (groupChars groups) :=
  Plain.intercalate rfl (Plain.digits (by decide) (by decide)) groups

theorem Ipv6.plain_chars (addr : Ipv6) : Plain addr.chars := by
  unfold chars
  split
  · next inner _ => exact Plain.append (by decide) inner.plain_chars
  · dsimp only
    split
    · exact ((plain_groupChars _).append (by decide)).append (plain_groupChars _)
    · exact plain_groupChars _

theorem IpAddr.plain_chars (ip : IpAddr) : Plain ip.chars := by
  cases ip with
  | v4 addr => exact addr.plain_chars
  | v6 addr => exact addr.plain_chars

theorem Direction.plain_name (d : Direction) : Plain d.name.toList := by
  cases d <;> decide

/-! ## Single values -/

namespace Json

theorem nat?_natural {n limit : Nat} (h : n < limit) : (natural n).nat? limit = some n := if_pos h

theorem u8?_natural (n : UInt8) : (natural n.toNat).u8? = some n := by
  simp [u8?, nat?_natural n.toNat_lt]

theorem u16?_natural (n : UInt16) : (natural n.toNat).u16? = some n := by
  simp [u16?, nat?_natural n.toNat_lt]

theorem u32?_natural (n : UInt32) : (natural n.toNat).u32? = some n := by
  simp [u32?, nat?_natural n.toNat_lt]

theorem u64?_natural (n : UInt64) : (natural n.toNat).u64? = some n := by
  simp [u64?, nat?_natural n.toNat_lt]

theorem mac?_chars (mac : Mac) : (string (some (String.ofList mac.chars))).mac? = some mac := by
  simp [mac?, text?, Mac.ofText?, mac.ofChars?_chars]

theorem ip?_chars (ip : IpAddr) : (string (some (String.ofList ip.chars))).ip? = some ip := by
  simp [ip?, text?, IpAddr.ofText?, ip.ofChars?_chars]

theorem direction?_name (d : Direction) : (string (some d.name)).direction? = some d := by
  cases d <;> rfl

end Json

namespace Protocol

/-- The value that the text of a protocol is read as. -/
def toJson : Protocol → Json
  | .other n => .object [(some "Other", .natural n.toNat)]
  | p => .string (some p.text)

theorem reads_jsonChars (p : Protocol) : Reads p.jsonChars p.toJson := by
  cases p with
  | icmp => exact reads_quoteChars "ICMP"
  | tcp => exact reads_quoteChars "TCP"
  | udp => exact reads_quoteChars "UDP"
  | icmpv6 => exact reads_quoteChars "ICMPv6"
  | other n =>
    exact @reads_objectChars [.natural "Other" (by decide) n.toNat] (List.cons_ne_nil _ _)

theorem protocol?_toJson (p : Protocol) : p.toJson.protocol? = some p := by
  cases p with
  | other n => simp [toJson, protocol?, u8?_natural]
  | _ => rfl

end Protocol

/-! ## Objects -/

namespace FlowId

def fields (id : FlowId) : List Field := [
  .natural "eth_protocol" (by decide) id.ethProtocol.toNat,
  .plainText "direction" (by decide) id.direction.name.toList id.direction.plain_name,
  .plainText "src_mac" (by decide) id.srcMac.chars id.srcMac.plain_chars,
  .plainText "dst_mac" (by decide) id.dstMac.chars id.dstMac.plain_chars,
  .plainText "src_addr" (by decide) id.srcAddr.chars id.srcAddr.plain_chars,
  .plainText "dst_addr" (by decide) id.dstAddr.chars id.dstAddr.plain_chars,
  .natural "src_port" (by decide) id.srcPort.toNat,
  .natural "dst_port" (by decide) id.dstPort.toNat,
  ⟨"protocol", id.protocol.jsonChars, id.protocol.toJson, by decide, id.protocol.reads_jsonChars⟩,
  .natural "icmp_type" (by decide) id.icmpType.toNat,
  .natural "icmp_code" (by decide) id.icmpCode.toNat,
  .natural "if_index" (by decide) id.ifIndex.toNat]

theorem jsonChars_eq (id : FlowId) : id.jsonChars = objectChars (id.fields.map Field.text) := rfl

theorem names_fields (id : FlowId) : id.fields.map Field.name = fieldNames := rfl

theorem ofJson?_fields (id : FlowId) : ofJson? (.object (id.fields.map Field.entry)) = some id := by
  rw [ofJson?, fields?_object false id.names_fields (by decide)]
  simp [fields, Field.natural, Field.plainText, u8?_natural, u16?_natural, u32?_natural,
    mac?_chars, ip?_chars, direction?_name, Protocol.protocol?_toJson]

end FlowId

namespace Metrics

def fields (m : Metrics) : List Field := [
  .natural "packets" (by decide) m.packets.toNat,
  .natural "bytes" (by decide) m.bytes.toNat,
  .natural "start" (by decide) m.start.toNat,
  .natural "end" (by decide) m.finish.toNat,
  .natural "flags" (by decide) m.flags.toNat,
  .natural "errno" (by decide) m.errno.toNat]

theorem jsonChars_eq (m : Metrics) : m.jsonChars = objectChars (m.fields.map Field.text) := rfl

theorem names_fields (m : Metrics) : m.fields.map Field.name = fieldNames := rfl

theorem ofJson?_fields (m : Metrics) : ofJson? (.object (m.fields.map Field.entry)) = some m := by
  rw [ofJson?, fields?_object false m.names_fields (by decide)]
  simp [fields, Field.natural, u8?_natural, u16?_natural, u32?_natural, u64?_natural]

end Metrics

namespace WallTime

/-- A time at or after the Unix epoch that a wall clock has: its seconds fit in
63 bits. -/
def SinceEpoch (t : WallTime) : Prop := 0 ≤ t ∧ t.toNat < UInt64.size / 2 * nanosPerSecond

def fields (t : WallTime) : List Field := [
  .natural "secs_since_epoch" (by decide) (t.toNat / nanosPerSecond),
  .natural "nanos_since_epoch" (by decide) (t.toNat % nanosPerSecond)]

theorem names_fields (t : WallTime) :
    (fields t).map Field.name = ["secs_since_epoch", "nanos_since_epoch"] := rfl

theorem jsonChars_eq {t : WallTime} (ht : SinceEpoch t) :
    jsonChars t = .ok (objectChars ((fields t).map Field.text)) :=
  if_neg (Int.not_lt.2 ht.1)

/-- Seconds and nanoseconds within their limits make a time. -/
theorem ofJson?_of_fields? {j : Json} {seconds nanos : Nat}
    (hfields : j.fields? true ["secs_since_epoch", "nanos_since_epoch"]
      = some [.natural seconds, .natural nanos])
    (hseconds : seconds < UInt64.size) (hnanos : nanos < UInt32.size)
    (htotal : seconds * nanosPerSecond + nanos < UInt64.size / 2 * nanosPerSecond) :
    ofJson? j = some ((seconds * nanosPerSecond + nanos : Nat) : Int) := by
  rw [ofJson?, hfields, Option.bind_eq_bind, Option.bind_some]
  simp only [Option.bind_eq_bind, nat?_natural hseconds, nat?_natural hnanos]
  -- By rewriting, not by computation, which would compare with the limit digit by digit.
  rw [Option.bind_some, Option.bind_some, if_pos htotal]
  rfl

theorem ofJson?_fields {t : WallTime} (ht : SinceEpoch t) :
    ofJson? (.object ((fields t).map Field.entry)) = some t := by
  have hseconds : t.toNat / nanosPerSecond < UInt64.size :=
    Nat.div_lt_of_lt_mul (Nat.lt_of_lt_of_le ht.2 (by decide))
  have hnanos : t.toNat % nanosPerSecond < UInt32.size :=
    Nat.lt_trans (Nat.mod_lt _ (by decide)) (by decide)
  have htotal : t.toNat / nanosPerSecond * nanosPerSecond + t.toNat % nanosPerSecond = t.toNat :=
    Nat.div_add_mod' _ _
  rw [ofJson?_of_fields? (fields?_object true (names_fields t) (by decide)) hseconds hnanos
    (htotal.symm ▸ ht.2), htotal, Int.toNat_of_nonneg ht.1]

end WallTime

namespace Record

def fields (r : Record) : List Field := [
  .object "id" (by decide) r.id.fields (List.cons_ne_nil _ _),
  .object "metrics" (by decide) r.metrics.fields (List.cons_ne_nil _ _),
  .object "time_flow_start" (by decide) (WallTime.fields r.started) (List.cons_ne_nil _ _),
  .object "time_flow_end" (by decide) (WallTime.fields r.ended) (List.cons_ne_nil _ _),
  .quoted "interface" (by decide) r.interface,
  .plainText "agent_ip" (by decide) r.agentIp.chars r.agentIp.plain_chars,
  .bool "duplicate" (by decide) r.duplicate]

theorem names_fields (r : Record) : r.fields.map Field.name = fieldNames := rfl

variable {r : Record}

theorem jsonChars_eq (hstarted : WallTime.SinceEpoch r.started)
    (hended : WallTime.SinceEpoch r.ended) :
    r.jsonChars = .ok (objectChars (r.fields.map Field.text)) := by
  rw [jsonChars, r.id.jsonChars_eq, r.metrics.jsonChars_eq, WallTime.jsonChars_eq hstarted,
    WallTime.jsonChars_eq hended]
  rfl

theorem ofJson?_fields (hstarted : WallTime.SinceEpoch r.started)
    (hended : WallTime.SinceEpoch r.ended) :
    ofJson? (.object (r.fields.map Field.entry)) = some r := by
  rw [ofJson?, fields?_object false r.names_fields (by decide)]
  simp [fields, Field.object, Field.quoted, Field.plainText, Field.bool, text?, bool?, ip?_chars,
    r.id.ofJson?_fields, r.metrics.ofJson?_fields, WallTime.ofJson?_fields hstarted,
    WallTime.ofJson?_fields hended]

/-- A record has a JSON text, and the text is read as the record. -/
theorem ofText?_json (hstarted : WallTime.SinceEpoch r.started)
    (hended : WallTime.SinceEpoch r.ended) :
    ∃ text, r.json = .ok text ∧ ofText? text = some r := by
  refine ⟨String.ofList (objectChars (r.fields.map Field.text)), ?_, ?_⟩
  · rw [json, jsonChars_eq hstarted hended]
    rfl
  · have hread := @reads_objectChars r.fields (List.cons_ne_nil _ _)
    rw [ofText?, String.toList_ofList, hread.ofChars?_eq]
    exact ofJson?_fields hstarted hended

/-- A record of large counts between an embedded address and one with two runs of zero groups. Its
interface has a quote, a control character and a character beyond the basic plane in its name, and
the number of its protocol has a name of its own. -/
def unusual : Record where
  id := {
    ethProtocol := 0x86dd
    direction := .unknown
    srcMac := ⟨⟨[0, 0x0a, 0xff, 1, 0x10, 0xc0], rfl⟩⟩
    dstMac := ⟨⟨[0, 0, 0, 0, 0, 0], rfl⟩⟩
    srcAddr := .v6 (Ipv4.mapped ⟨⟨[10, 0, 200, 255], rfl⟩⟩)
    dstAddr := .v6 ⟨⟨[0xfe, 0x80, 0, 0, 0, 0, 0x0a, 0xbc, 0, 0, 0, 0, 0, 0, 0, 1], rfl⟩⟩
    srcPort := 65535
    dstPort := 0
    protocol := .other 6
    icmpType := 255
    icmpCode := 0
    ifIndex := 4294967295 }
  metrics := {
    packets := 4294967295
    bytes := 18446744073709551615
    start := 9007199254740993
    finish := 18446744073709551615
    flags := 65535
    errno := 255 }
  started := 999999999
  ended := 1700000000000000001
  interface := "\"e\x07\t\\🦀"
  agentIp := .v4 ⟨⟨[172, 16, 254, 1], rfl⟩⟩
  duplicate := true

theorem ofText?_json_unusual :
    WallTime.SinceEpoch unusual.started ∧ WallTime.SinceEpoch unusual.ended ∧
      ∃ text, unusual.json = .ok text ∧ ofText? text = some unusual := by
  have hstarted : WallTime.SinceEpoch unusual.started := ⟨by decide, by decide⟩
  have hended : WallTime.SinceEpoch unusual.ended := ⟨by decide, by decide⟩
  exact ⟨hstarted, hended, ofText?_json hstarted hended⟩

end Record

end Flowmeter
