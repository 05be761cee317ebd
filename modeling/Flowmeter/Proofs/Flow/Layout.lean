-- SUMMARY: Each field of a record that is read is the value of its own bytes, at a place that does not depend on any byte.
import Mathlib.Algebra.BigOperators.Intervals
import Mathlib.Algebra.BigOperators.Ring.Finset
import Flowmeter.Proofs.Flow.Image

/-!
# Layout

The probe writes the fields of a record one behind the other. A reader that
takes them off the front never says where a field stands, so a width that is
wrong would shift all fields behind it. Here the layout is a table: the fields
in their order, each with the form in which it is written. The form gives the
width and says what the bytes mean, and the place of a field is behind all
that stand in front of it. What is read is what the table says, so no field
depends on a byte that is not its own.
-/

namespace Flowmeter

/-- The number that bytes make up, each counting 256 times as much as the one in front of it. -/
def Bytes.littleEndian (bs : Bytes) : Nat :=
  ∑ i ∈ Finset.range bs.length, (bs.getD i 0).toNat * 256 ^ i

theorem Bytes.toNatLE_eq_littleEndian (bs : Bytes) : toNatLE bs = bs.littleEndian := by
  induction bs with
  | nil => rfl
  | cons b bs ih =>
    have hrest : ∑ i ∈ Finset.range bs.length, ((b :: bs).getD (i + 1) 0).toNat * 256 ^ (i + 1)
        = 256 * littleEndian bs := by
      rw [littleEndian, Finset.mul_sum]
      refine Finset.sum_congr rfl fun i _ => ?_
      rw [List.getD_cons_succ, Nat.pow_succ, ← Nat.mul_assoc, Nat.mul_comm]
    rw [toNatLE, ih, ← hrest, littleEndian, List.length_cons, Finset.sum_range_succ', Nat.add_comm]
    simp

/-- Addresses are of one version if the one is of version 4 exactly when the other is. -/
theorem IpAddr.version_eq_of_isV4_iff {a b : IpAddr} (h : a.isV4 = true ↔ b.isV4 = true) :
    a.version = b.version := by
  cases a <;> cases b <;> simp_all [isV4, version]

/-! ## Forms -/

/-- How a field is written. -/
inductive WireForm where
  | u8
  | u16
  | u32
  | u64
  | direction
  | protocol
  | mac
  | address

namespace WireForm

def width : WireForm → Nat
  | .u8 | .direction | .protocol => 1
  | .u16 => 2
  | .u32 => 4
  | .u64 => 8
  | .mac => 6
  | .address => 16

def Value : WireForm → Type
  | .u8 => UInt8
  | .u16 => UInt16
  | .u32 => UInt32
  | .u64 => UInt64
  | .direction => Direction
  | .protocol => Protocol
  | .mac => Mac
  | .address => IpAddr

/-- Sixteen bytes hold a version 4 address if they begin with ten zeros and two bytes of ones. -/
def HoldsV4 (bs : Bytes) : Prop := bs.take 12 = List.replicate 10 0 ++ [0xff, 0xff]

instance (bs : Bytes) : Decidable (HoldsV4 bs) := inferInstanceAs (Decidable (_ = _))

/-- What bytes of the form mean. -/
def Denotes : (form : WireForm) → Bytes → form.Value → Prop
  | .u8, bs, (v : UInt8) => v.toNat = bs.littleEndian
  | .u16, bs, (v : UInt16) => v.toNat = bs.littleEndian
  | .u32, bs, (v : UInt32) => v.toNat = bs.littleEndian
  | .u64, bs, (v : UInt64) => v.toNat = bs.littleEndian
  | .direction, bs, (v : Direction) => ∃ code, bs = [code] ∧
      v = if code = 0 then .ingress else if code = 1 then .egress else .unknown
  | .protocol, bs, (v : Protocol) => ∃ number, bs = [number] ∧
      v = if number = 1 then .icmp else if number = 6 then .tcp else if number = 17 then .udp
        else if number = 58 then .icmpv6 else .other number
  | .mac, bs, (v : Mac) => v.octets.toList = bs
  | .address, bs, (v : IpAddr) =>
      (v.isV4 = true ↔ HoldsV4 bs) ∧
        (HoldsV4 bs → v.octets = bs.drop 12) ∧ (¬ HoldsV4 bs → v.octets = bs)

variable {form : WireForm} {bs : Bytes} {v v' : form.Value}

/-- Bytes of a form mean one thing only. -/
theorem Denotes.unique (h : form.Denotes bs v) (h' : form.Denotes bs v') : v = v' := by
  cases form with
  | u8 => exact UInt8.toNat_inj.1 (h.trans h'.symm)
  | u16 => exact UInt16.toNat_inj.1 (h.trans h'.symm)
  | u32 => exact UInt32.toNat_inj.1 (h.trans h'.symm)
  | u64 => exact UInt64.toNat_inj.1 (h.trans h'.symm)
  | direction =>
    obtain ⟨code, rfl, rfl⟩ := h
    obtain ⟨code', hcode, rfl⟩ := h'
    rw [(List.singleton_inj.1 hcode)]
  | protocol =>
    obtain ⟨number, rfl, rfl⟩ := h
    obtain ⟨number', hnumber, rfl⟩ := h'
    rw [(List.singleton_inj.1 hnumber)]
  | mac =>
    have hoctets := Octets.ext (h.trans h'.symm)
    exact congrArg Mac.mk hoctets
  | address =>
    obtain ⟨hv4, hinner, houter⟩ := h
    obtain ⟨hv4', hinner', houter'⟩ := h'
    have hoctets : v.octets = v'.octets := by
      by_cases hholds : HoldsV4 bs
      · rw [hinner hholds, hinner' hholds]
      · rw [houter hholds, houter' hholds]
    have hversion := IpAddr.version_eq_of_isV4_iff (hv4.trans hv4'.symm)
    exact IpAddr.eq_of_version_of_octets hversion hoctets

/-! What the reader makes of the bytes of a form is what they mean. -/

theorem denotes_u8 (b : UInt8) : u8.Denotes [b] b := by
  simp [Denotes, Bytes.littleEndian]

theorem denotes_u16 (o : Octets 2) : u16.Denotes o.toList (.ofNat o.toNatLE) :=
  (UInt16.toNat_ofNat_of_lt' o.toNatLE_lt).trans (Bytes.toNatLE_eq_littleEndian _)

theorem denotes_u32 (o : Octets 4) : u32.Denotes o.toList (.ofNat o.toNatLE) :=
  (UInt32.toNat_ofNat_of_lt' o.toNatLE_lt).trans (Bytes.toNatLE_eq_littleEndian _)

theorem denotes_u64 (o : Octets 8) : u64.Denotes o.toList (.ofNat o.toNatLE) :=
  (UInt64.toNat_ofNat_of_lt' o.toNatLE_lt).trans (Bytes.toNatLE_eq_littleEndian _)

theorem denotes_direction (code : UInt8) : direction.Denotes [code] (.ofCode code) :=
  ⟨code, rfl, rfl⟩

theorem denotes_protocol (number : UInt8) : protocol.Denotes [number] (.ofNumber number) :=
  ⟨number, rfl, rfl⟩

theorem denotes_mac (o : Octets 6) : mac.Denotes o.toList (⟨o⟩ : Mac) := rfl

theorem denotes_address (o : Octets 16) : address.Denotes o.toList (.ofV6 ⟨o⟩) := by
  by_cases hholds : HoldsV4 o.toList
  · have hinner : (⟨o⟩ : Ipv6).embedded?
        = some ⟨⟨o.toList.drop 12, by simp [o.length_eq]⟩⟩ := if_pos hholds
    rw [IpAddr.ofV6, hinner]
    exact ⟨iff_of_true rfl hholds, fun _ => rfl, fun h => absurd hholds h⟩
  · have houter : (⟨o⟩ : Ipv6).embedded? = none := if_neg hholds
    rw [IpAddr.ofV6, houter]
    exact ⟨iff_of_false Bool.false_ne_true hholds, fun h => absurd h hholds, fun _ => rfl⟩

end WireForm

/-! ## Fields -/

/-- The fields of a record. -/
inductive WireField where
  | ethProtocol
  | direction
  | srcMac
  | dstMac
  | srcAddr
  | dstAddr
  | srcPort
  | dstPort
  | protocol
  | icmpType
  | icmpCode
  | ifIndex
  | packets
  | bytes
  | start
  | finish
  | flags
  | errno
deriving DecidableEq

namespace WireField

/-- The fields in the order in which they are written. -/
def all : List WireField :=
  [ethProtocol, direction, srcMac, dstMac, srcAddr, dstAddr, srcPort, dstPort, protocol, icmpType,
    icmpCode, ifIndex, packets, bytes, start, finish, flags, errno]

theorem mem_all (f : WireField) : f ∈ all := by
  cases f <;> decide

def form : WireField → WireForm
  | ethProtocol | srcPort | dstPort | flags => .u16
  | direction => .direction
  | srcMac | dstMac => .mac
  | srcAddr | dstAddr => .address
  | protocol => .protocol
  | icmpType | icmpCode | errno => .u8
  | ifIndex | packets => .u32
  | bytes | start | finish => .u64

def width (f : WireField) : Nat := f.form.width

/-- A field stands behind all that are written before it. -/
def offset (f : WireField) : Nat := ((all.takeWhile (· ≠ f)).map width).sum

/-- The bytes of a field. -/
def range (f : WireField) (bs : Bytes) : Bytes := (bs.drop f.offset).take f.width

/-- A field of a record. -/
def get (r : RawRecord) : (f : WireField) → f.form.Value
  | ethProtocol => r.id.ethProtocol
  | direction => r.id.direction
  | srcMac => r.id.srcMac
  | dstMac => r.id.dstMac
  | srcAddr => r.id.srcAddr
  | dstAddr => r.id.dstAddr
  | srcPort => r.id.srcPort
  | dstPort => r.id.dstPort
  | protocol => r.id.protocol
  | icmpType => r.id.icmpType
  | icmpCode => r.id.icmpCode
  | ifIndex => r.id.ifIndex
  | packets => r.metrics.packets
  | bytes => r.metrics.bytes
  | start => r.metrics.start
  | finish => r.metrics.finish
  | flags => r.metrics.flags
  | errno => r.metrics.errno

/-- Bytes that agree at every place of a field agree in its range. -/
theorem range_eq_of_getElem? {f : WireField} {bs bs' : Bytes}
    (h : ∀ i, f.offset ≤ i → i < f.offset + f.width → bs'[i]? = bs[i]?) :
    f.range bs' = f.range bs := by
  refine List.ext_getElem? fun i => ?_
  rw [range, range, List.getElem?_take, List.getElem?_take]
  split
  · next hi =>
    rw [List.getElem?_drop, List.getElem?_drop]
    exact h _ (Nat.le_add_right _ _) (Nat.add_lt_add_left hi _)
  · rfl

end WireField

/-- Of pieces of known widths that are written one behind the other, each is found behind those
in front of it. -/
theorem take_drop_flatMap {α : Type} [DecidableEq α] {piece : α → Bytes} {width : α → Nat}
    (hwidth : ∀ a, (piece a).length = width a) {a : α} {as : List α} (ha : a ∈ as) (rest : Bytes) :
    ((as.flatMap piece ++ rest).drop ((as.takeWhile (· ≠ a)).map width).sum).take (width a)
      = piece a := by
  induction as with
  | nil => cases ha
  | cons b as ih =>
    rw [List.flatMap_cons, List.append_assoc]
    by_cases hb : b = a
    · subst hb
      have hfront : (b :: as).takeWhile (· ≠ b) = [] := List.takeWhile_cons_of_neg (by simp)
      rw [hfront]
      exact List.take_left' (hwidth b)
    · have hfront : (b :: as).takeWhile (· ≠ a) = b :: as.takeWhile (· ≠ a) :=
        List.takeWhile_cons_of_pos (by simpa using hb)
      have hmem : a ∈ as := (List.mem_cons.1 ha).resolve_left (Ne.symm hb)
      rw [hfront, List.map_cons, List.sum_cons, ← List.drop_drop, List.drop_left' (hwidth b),
        ih hmem]

/-! ## Images, field by field -/

namespace RawRecord.Image

variable (x : Image)

/-- The octets that hold a field. -/
def octetsOf : WireField → Bytes
  | .ethProtocol => x.id.ethProtocol.toList
  | .direction => [x.id.direction]
  | .srcMac => x.id.srcMac.toList
  | .dstMac => x.id.dstMac.toList
  | .srcAddr => x.id.srcAddr.toList
  | .dstAddr => x.id.dstAddr.toList
  | .srcPort => x.id.srcPort.toList
  | .dstPort => x.id.dstPort.toList
  | .protocol => [x.id.protocol]
  | .icmpType => [x.id.icmpType]
  | .icmpCode => [x.id.icmpCode]
  | .ifIndex => x.id.ifIndex.toList
  | .packets => x.metrics.packets.toList
  | .bytes => x.metrics.bytes.toList
  | .start => x.metrics.start.toList
  | .finish => x.metrics.finish.toList
  | .flags => x.metrics.flags.toList
  | .errno => [x.metrics.errno]

theorem length_octetsOf (f : WireField) : (x.octetsOf f).length = f.width := by
  cases f with
  | direction | protocol | icmpType | icmpCode | errno => rfl
  | ethProtocol | srcMac | dstMac | srcAddr | dstAddr | srcPort | dstPort | ifIndex | packets
  | bytes | start | finish | flags => exact Octets.length_eq _

theorem toBytes_eq_flatMap : x.toBytes = WireField.all.flatMap x.octetsOf := by
  simp [toBytes, FlowId.Image.toBytes, Metrics.Image.toBytes, WireField.all, octetsOf]

theorem range_append (f : WireField) (rest : Bytes) :
    f.range (x.toBytes ++ rest) = x.octetsOf f := by
  rw [toBytes_eq_flatMap]
  exact take_drop_flatMap x.length_octetsOf f.mem_all rest

theorem denotes_octetsOf (f : WireField) : f.form.Denotes (x.octetsOf f) (f.get x.value) := by
  cases f with
  | ethProtocol | srcPort | dstPort | flags => exact WireForm.denotes_u16 _
  | direction => exact WireForm.denotes_direction _
  | srcMac | dstMac => exact WireForm.denotes_mac _
  | srcAddr | dstAddr => exact WireForm.denotes_address _
  | protocol => exact WireForm.denotes_protocol _
  | icmpType | icmpCode | errno => exact WireForm.denotes_u8 _
  | ifIndex | packets => exact WireForm.denotes_u32 _
  | bytes | start | finish => exact WireForm.denotes_u64 _

end RawRecord.Image

/-! ## Reading by the layout -/

namespace RawRecord

/-- Bytes that are long enough hold a record, whose fields are what their ranges mean. -/
theorem exists_decode {bs : Bytes} (h : wireSize ≤ bs.length) :
    ∃ r, decode bs = .ok r ∧ ∀ f : WireField, f.form.Denotes (f.range bs) (f.get r) := by
  obtain ⟨x, rest, rfl⟩ := Image.exists_append h
  refine ⟨x.value, x.decode_append rest, fun f => ?_⟩
  rw [x.range_append]
  exact x.denotes_octetsOf f

/-- Each field that is read from bytes of sufficient length is the one value that its own range
means, and stays the same whatever the bytes outside of that range are. -/
theorem decode_reads_layout {bs : Bytes} (h : wireSize ≤ bs.length) :
    ∃ r, decode bs = .ok r ∧
      (∀ f : WireField, f.form.Denotes (f.range bs) (f.get r) ∧
        ∀ v, f.form.Denotes (f.range bs) v → v = f.get r) ∧
      ∀ bs' : Bytes, wireSize ≤ bs'.length →
        ∃ r', decode bs' = .ok r' ∧ ∀ f : WireField,
          (∀ i, f.offset ≤ i → i < f.offset + f.width → bs'[i]? = bs[i]?) → f.get r' = f.get r := by
  obtain ⟨r, hr, hget⟩ := exists_decode h
  refine ⟨r, hr, fun f => ⟨hget f, fun v hv => hv.unique (hget f)⟩, fun bs' h' => ?_⟩
  obtain ⟨r', hr', hget'⟩ := exists_decode h'
  refine ⟨r', hr', fun f hsame => ?_⟩
  have hrange := hget' f
  rw [WireField.range_eq_of_getElem? hsame] at hrange
  exact hrange.unique (hget f)

/-- The fields from the front on, and where they begin. -/
example : WireField.all.map WireField.offset
    = [0, 2, 3, 9, 15, 31, 47, 49, 51, 52, 53, 54, 58, 62, 70, 78, 86, 88] := by decide

/-- An event from a version 4 address to one of version 6, with a byte that belongs to no field. -/
def probeEvent : Bytes :=
  [0xDD, 0x86, 1, 1, 2, 3, 4, 5, 6, 6, 5, 4, 3, 2, 1,
    0, 0, 0, 0, 0, 0, 0, 0, 0, 0, 0xff, 0xff, 10, 0, 0, 1,
    0xfe, 0x80, 0, 0, 0, 0, 0, 0, 0, 0, 0, 0, 0, 0, 0, 7,
    123, 0, 0xbb, 1, 6, 0, 0, 9, 0, 0, 0,
    2, 0, 0, 0, 20, 0, 0, 0, 0, 0, 0, 0, 0xe8, 3, 0, 0, 0, 0, 0, 0, 0xd0, 7, 0, 0, 0, 0, 0, 0,
    0x12, 0, 7, 0x55]

theorem decode_reads_layout_probeEvent :
    wireSize ≤ probeEvent.length ∧ ∃ r, decode probeEvent = .ok r ∧
      r.id.ethProtocol = 0x86DD ∧ r.id.direction = .egress ∧
      r.id.srcAddr = .v4 ⟨⟨[10, 0, 0, 1], rfl⟩⟩ ∧
      r.id.dstAddr = .v6 ⟨⟨[0xfe, 0x80, 0, 0, 0, 0, 0, 0, 0, 0, 0, 0, 0, 0, 0, 7], rfl⟩⟩ ∧
      r.id.dstPort = 443 ∧ r.id.ifIndex = 9 ∧ r.metrics.start = 1000 ∧ r.metrics.errno = 7 := by
  have hlong : wireSize ≤ probeEvent.length := by decide
  obtain ⟨r, hr, hget, -⟩ := decode_reads_layout hlong
  have hsrc : WireForm.HoldsV4 (WireField.range .srcAddr probeEvent) := by decide
  have hdst : ¬ WireForm.HoldsV4 (WireField.range .dstAddr probeEvent) := by decide
  -- each number is the sum that its bytes make up
  have hethProtocol :
      UInt16.toNat 0x86DD = (WireField.ethProtocol.range probeEvent).littleEndian := by decide
  have hdstPort : UInt16.toNat 443 = (WireField.dstPort.range probeEvent).littleEndian := by decide
  have hifIndex : UInt32.toNat 9 = (WireField.ifIndex.range probeEvent).littleEndian := by decide
  have hstart : UInt64.toNat 1000 = (WireField.start.range probeEvent).littleEndian := by decide
  have herrno : UInt8.toNat 7 = (WireField.errno.range probeEvent).littleEndian := by decide
  exact ⟨hlong, r, hr, ((hget .ethProtocol).2 _ hethProtocol).symm,
    ((hget .direction).2 Direction.egress ⟨1, rfl, rfl⟩).symm,
    ((hget .srcAddr).2 (IpAddr.v4 _)
      ⟨iff_of_true rfl hsrc, fun _ => rfl, fun h => absurd hsrc h⟩).symm,
    ((hget .dstAddr).2 (IpAddr.v6 _)
      ⟨iff_of_false Bool.false_ne_true hdst, fun h => absurd h hdst, fun _ => rfl⟩).symm,
    ((hget .dstPort).2 _ hdstPort).symm, ((hget .ifIndex).2 _ hifIndex).symm,
    ((hget .start).2 _ hstart).symm, ((hget .errno).2 _ herrno).symm⟩

end RawRecord

end Flowmeter
