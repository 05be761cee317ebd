-- SUMMARY: Writing a record and reading it again, or the other way round, changes nothing but what has more than one form.
import Flowmeter.Proofs.Flow.Image

/-!
# Round trips

A protocol with a name may also stand under its number, and a version 4 address
may stand embedded in a version 6 address. Written they look the same, and
reading answers with the name and the version 4 address: the canonical form.
In the other direction all codes but two mean an unknown direction, which is
written as one of them: the normal form. Nothing else is lost either way.
-/

namespace Flowmeter

/-! ## Canonical values -/

namespace Direction

/-- The code of the direction that `code` stands for. -/
def normalCode (code : UInt8) : UInt8 := if code = 0 ∨ code = 1 then code else 0xff

theorem ofCode_code (direction : Direction) : ofCode direction.code = direction := by
  cases direction with
  | ingress => rfl
  | egress => rfl
  | unknown => rfl

theorem code_ofCode (code : UInt8) : (ofCode code).code = normalCode code := by
  unfold ofCode normalCode
  by_cases h₀ : code = 0
  · simp [h₀, Direction.code]
  · by_cases h₁ : code = 1
    · simp [h₁, Direction.code]
    · simp [h₀, h₁, Direction.code]

end Direction

namespace Protocol

/-- The protocol under its own name, if it has one. -/
def canonical : Protocol → Protocol
  | .other n => ofNumber n
  | protocol => protocol

/-- The protocol does not stand under its number in spite of a name. -/
def IsCanonical (protocol : Protocol) : Prop :=
  protocol ≠ .other 1 ∧ protocol ≠ .other 6 ∧ protocol ≠ .other 17 ∧ protocol ≠ .other 58

theorem ofNumber_number (protocol : Protocol) : ofNumber protocol.number = protocol.canonical := by
  cases protocol <;> rfl

theorem number_ofNumber (n : UInt8) : (ofNumber n).number = n := by
  unfold ofNumber
  split
  · next h => rw [h]; rfl
  split
  · next h => rw [h]; rfl
  split
  · next h => rw [h]; rfl
  split
  · next h => rw [h]; rfl
  · rfl

theorem ofNumber_eq_other_iff {n : UInt8} :
    ofNumber n = .other n ↔ n ≠ 1 ∧ n ≠ 6 ∧ n ≠ 17 ∧ n ≠ 58 := by
  grind [ofNumber]

theorem canonical_eq_self_iff {protocol : Protocol} :
    protocol.canonical = protocol ↔ protocol.IsCanonical := by
  cases protocol with
  | other n => simpa [canonical, IsCanonical] using ofNumber_eq_other_iff
  | _ => simp [canonical, IsCanonical]

theorem isCanonical_ofNumber (n : UInt8) : (ofNumber n).IsCanonical := by
  rw [← canonical_eq_self_iff, ← ofNumber_number, number_ofNumber]

end Protocol

namespace Ipv6

theorem embedded?_mapped (inner : Ipv4) : inner.mapped.embedded? = some inner := by
  have htake : inner.mapped.octets.toList.take 12 = mappedOctets := List.take_left' rfl
  have hdrop : inner.mapped.octets.toList.drop 12 = inner.octets.toList := List.drop_left' rfl
  simp only [embedded?, htake, hdrop, if_true]

theorem eq_mapped_of_embedded? {addr : Ipv6} {inner : Ipv4} (h : addr.embedded? = some inner) :
    addr = inner.mapped := by
  unfold embedded? at h
  split at h
  · next hmark =>
    obtain rfl := Option.some.inj h
    have hoctets : addr.octets.toList = mappedOctets ++ addr.octets.toList.drop 12 := by
      rw [← hmark, List.take_append_drop]
    exact congrArg Ipv6.mk (Octets.ext hoctets)
  · cases h

end Ipv6

namespace IpAddr

/-- A version 4 address by itself, if it is embedded. -/
def canonical : IpAddr → IpAddr
  | .v4 addr => .v4 addr
  | .v6 addr => ofV6 addr

/-- The address is not an embedded version 4 address. -/
def IsCanonical (ip : IpAddr) : Prop := ∀ inner : Ipv4, ip ≠ .v6 inner.mapped

theorem ofV6_mapped (inner : Ipv4) : ofV6 inner.mapped = .v4 inner := by
  rw [ofV6, Ipv6.embedded?_mapped]

theorem ofV6_eq_v6_iff {addr addr' : Ipv6} :
    ofV6 addr = .v6 addr' ↔ addr = addr' ∧ ∀ inner : Ipv4, addr ≠ inner.mapped := by
  cases hinner : addr.embedded? with
  | some inner =>
    have hmapped := Ipv6.eq_mapped_of_embedded? hinner
    have hnot : ¬ ∀ inner : Ipv4, addr ≠ inner.mapped := fun hne => hne inner hmapped
    simp [ofV6, hinner, hnot]
  | none =>
    have hne : ∀ inner : Ipv4, addr ≠ inner.mapped := by
      rintro inner rfl
      rw [Ipv6.embedded?_mapped] at hinner
      cases hinner
    simp [ofV6, hinner, hne]

theorem ofV6_toV6 (ip : IpAddr) : ofV6 ⟨ip.toV6.octets⟩ = ip.canonical := by
  cases ip with
  | v4 addr => exact ofV6_mapped addr
  | v6 addr => rfl

theorem toV6_ofV6 (addr : Ipv6) : (ofV6 addr).toV6 = addr := by
  cases hinner : addr.embedded? with
  | some inner =>
    obtain rfl := Ipv6.eq_mapped_of_embedded? hinner
    rw [ofV6_mapped]
    rfl
  | none => simp [ofV6, hinner, toV6]

theorem canonical_eq_self_iff {ip : IpAddr} : ip.canonical = ip ↔ ip.IsCanonical := by
  cases ip with
  | v4 addr => simp [canonical, IsCanonical]
  | v6 addr =>
    rw [canonical, ofV6_eq_v6_iff]
    simp [IsCanonical]

theorem isCanonical_ofV6 (addr : Ipv6) : (ofV6 addr).IsCanonical := by
  intro inner h
  obtain ⟨rfl, hne⟩ := ofV6_eq_v6_iff.1 h
  exact hne inner rfl

end IpAddr

/-! ## Canonical records -/

namespace FlowId

/-- The identity with canonical addresses and protocol. -/
def canonical (id : FlowId) : FlowId :=
  { id with
    srcAddr := id.srcAddr.canonical
    dstAddr := id.dstAddr.canonical
    protocol := id.protocol.canonical }

theorem value_image (id : FlowId) : id.image.value = id.canonical := by
  simp only [image, Image.value, canonical, Octets.u16_toNatLE_ofNatLE, Octets.u32_toNatLE_ofNatLE,
    Direction.ofCode_code, IpAddr.ofV6_toV6, Protocol.ofNumber_number]

/-- The octets with the normal code of their direction. -/
def Image.normal (v : Image) : Image := { v with direction := Direction.normalCode v.direction }

theorem image_value (v : Image) : v.value.image = v.normal := by
  simp only [image, Image.value, Image.normal, Octets.ofNatLE_toNat_u16, Octets.ofNatLE_toNat_u32,
    Direction.code_ofCode, IpAddr.toV6_ofV6, Protocol.number_ofNumber]

end FlowId

namespace Metrics

theorem value_image (m : Metrics) : m.image.value = m := by
  simp only [image, Image.value, Octets.u16_toNatLE_ofNatLE, Octets.u32_toNatLE_ofNatLE,
    Octets.u64_toNatLE_ofNatLE]

theorem image_value (w : Image) : w.value.image = w := by
  simp only [image, Image.value, Octets.ofNatLE_toNat_u16, Octets.ofNatLE_toNat_u32,
    Octets.ofNatLE_toNat_u64]

end Metrics

namespace RawRecord

/-- The record with canonical addresses and protocol. -/
def canonical (r : RawRecord) : RawRecord := { r with id := r.id.canonical }

/-- No address and no protocol of the record has another form that is canonical. -/
structure IsCanonical (r : RawRecord) : Prop where
  srcAddr : r.id.srcAddr.IsCanonical
  dstAddr : r.id.dstAddr.IsCanonical
  protocol : r.id.protocol.IsCanonical

theorem canonical_eq_self_iff {r : RawRecord} : r.canonical = r ↔ r.IsCanonical := by
  constructor
  · intro h
    constructor
    · exact IpAddr.canonical_eq_self_iff.1 (congrArg (·.id.srcAddr) h)
    · exact IpAddr.canonical_eq_self_iff.1 (congrArg (·.id.dstAddr) h)
    · exact Protocol.canonical_eq_self_iff.1 (congrArg (·.id.protocol) h)
  · intro h
    rw [canonical, FlowId.canonical, IpAddr.canonical_eq_self_iff.2 h.srcAddr,
      IpAddr.canonical_eq_self_iff.2 h.dstAddr, Protocol.canonical_eq_self_iff.2 h.protocol]

theorem isCanonical_value (x : Image) : x.value.IsCanonical where
  srcAddr := IpAddr.isCanonical_ofV6 _
  dstAddr := IpAddr.isCanonical_ofV6 _
  protocol := Protocol.isCanonical_ofNumber _

theorem value_image (r : RawRecord) : r.image.value = r.canonical := by
  rw [image, Image.value, FlowId.value_image, Metrics.value_image, canonical]

/-- The octets with the normal code of the direction. -/
def Image.normal (x : Image) : Image := { x with id := x.id.normal }

theorem encode_value (x : Image) : x.value.encode = x.normal.toBytes := by
  rw [encode_eq_toBytes, image, Image.value, FlowId.image_value, Metrics.image_value, Image.normal]

theorem decode_encode_append (r : RawRecord) (rest : Bytes) :
    decode (r.encode ++ rest) = .ok r.canonical := by
  rw [encode_eq_toBytes, Image.decode_append, value_image]

/-! ## Results of reading -/

theorem decode_short {bs : Bytes} (h : bs.length < 89) : decode bs = .error ⟨bs.length⟩ := if_pos h

theorem decode_eq_ok_iff {bs : Bytes} {r : RawRecord} :
    decode bs = .ok r ↔ ∃ (x : Image) (rest : Bytes), bs = x.toBytes ++ rest ∧ r = x.value := by
  constructor
  · intro h
    have hlong : 89 ≤ bs.length := by
      refine Nat.not_lt.1 fun hshort => ?_
      rw [decode_short hshort] at h
      cases h
    obtain ⟨x, rest, rfl⟩ := Image.exists_append hlong
    rw [x.decode_append] at h
    exact ⟨x, rest, rfl, (Except.ok.inj h).symm⟩
  · rintro ⟨x, rest, rfl, rfl⟩
    exact x.decode_append rest

theorem decode_eq_error_iff {bs : Bytes} {e : ShortEvent} :
    decode bs = .error e ↔ bs.length < 89 ∧ e = ⟨bs.length⟩ := by
  constructor
  · intro h
    by_cases hshort : bs.length < 89
    · rw [decode_short hshort] at h
      exact ⟨hshort, (Except.error.inj h).symm⟩
    · obtain ⟨x, rest, rfl⟩ := Image.exists_append (Nat.not_lt.1 hshort)
      rw [x.decode_append] at h
      cases h
  · rintro ⟨hshort, rfl⟩
    exact decode_short hshort

/-- Whatever is read is canonical. -/
theorem isCanonical_of_decode {bs : Bytes} {r : RawRecord} (h : decode bs = .ok r) :
    r.IsCanonical := by
  obtain ⟨x, rest, -, rfl⟩ := decode_eq_ok_iff.1 h
  exact isCanonical_value x

theorem decode_encode_of_isCanonical {r : RawRecord} (h : r.IsCanonical) :
    decode r.encode = .ok r := by
  have hdecode := r.decode_encode_append []
  rwa [List.append_nil, canonical_eq_self_iff.2 h] at hdecode

theorem encode_inj {r r' : RawRecord} (h : r.IsCanonical) (h' : r'.IsCanonical)
    (heq : r.encode = r'.encode) : r = r' := by
  have hdecode := decode_encode_of_isCanonical h
  rw [heq, decode_encode_of_isCanonical h'] at hdecode
  exact (Except.ok.inj hdecode).symm

/-! ## Both ways -/

/-- A record takes 89 bytes, from which it is read in its canonical form. So it
comes back as it was if and only if it is canonical, and the canonical records
are those that can be read at all. -/
theorem decode_encode_eq_canonical (r : RawRecord) :
    r.encode.length = 89 ∧
    decode r.encode = .ok r.canonical ∧
    (decode r.encode = .ok r ↔ r.IsCanonical) ∧
    (r.IsCanonical ↔ ∃ bs, decode bs = .ok r) := by
  have hdecode : decode r.encode = .ok r.canonical := by
    simpa using r.decode_encode_append []
  have hsame : decode r.encode = .ok r ↔ r.IsCanonical := by
    rw [hdecode, Except.ok.injEq, canonical_eq_self_iff]
  refine ⟨r.image.length_toBytes, hdecode, hsame, ?_, ?_⟩
  · intro h
    exact ⟨r.encode, decode_encode_of_isCanonical h⟩
  · rintro ⟨bs, h⟩
    exact isCanonical_of_decode h

/-- The bytes of a record, with the normal code of the direction in third place. -/
def normalForm (bs : Bytes) : Bytes := (bs.take wireSize).modify 2 Direction.normalCode

theorem normalForm_append (x : Image) (rest : Bytes) :
    normalForm (x.toBytes ++ rest) = x.normal.toBytes := by
  have hmodify (tail : Bytes) : (x.id.ethProtocol.toList ++ x.id.direction :: tail).modify 2
        Direction.normalCode
      = x.id.ethProtocol.toList ++ Direction.normalCode x.id.direction :: tail := by
    have h := List.modifyTailIdx_add (List.modifyHead Direction.normalCode) 0
      x.id.ethProtocol.toList (x.id.direction :: tail)
    rw [x.id.ethProtocol.length_eq] at h
    exact h
  have htake : (x.toBytes ++ rest).take wireSize = x.toBytes := List.take_left' x.length_toBytes
  rw [normalForm, htake]
  simp only [Image.toBytes, FlowId.Image.toBytes, Image.normal, FlowId.Image.normal,
    List.append_assoc, List.cons_append, List.nil_append, hmodify]

/-- What is read from bytes is written as their normal form. -/
theorem encode_of_decode {bs : Bytes} {r : RawRecord} (h : decode bs = .ok r) :
    r.encode = normalForm bs := by
  obtain ⟨x, rest, rfl, rfl⟩ := decode_eq_ok_iff.1 h
  rw [encode_value, normalForm_append]

/-- Reading fails on fewer than 89 bytes and on no others, for no field runs out
of bytes. What is read is written as the first 89 bytes with the code of the
direction made normal; two records that are read are equal if and only if these
bytes are; and bytes behind them do not matter. -/
theorem encode_decode_eq_normalForm (bs : Bytes) :
    (∀ e, decode bs = .error e ↔ bs.length < 89 ∧ e = ⟨bs.length⟩) ∧
    (89 ≤ bs.length → ∃ r rest, FieldReader.rawRecord bs = some (r, rest) ∧
      decode bs = .ok r ∧ r.encode = normalForm bs) ∧
    (89 ≤ bs.length → ∀ bs', 89 ≤ bs'.length →
      (decode bs = decode bs' ↔ normalForm bs = normalForm bs')) ∧
    (89 ≤ bs.length → ∀ rest, decode (bs.take 89 ++ rest) = decode bs) := by
  refine ⟨fun e => decode_eq_error_iff, fun h => ?_, fun h bs' h' => ?_, fun h rest => ?_⟩
  · obtain ⟨x, rest, rfl⟩ := Image.exists_append h
    exact ⟨x.value, rest, x.rawRecord_append rest, x.decode_append rest,
      encode_of_decode (x.decode_append rest)⟩
  · obtain ⟨x, rest, rfl⟩ := Image.exists_append h
    obtain ⟨x', rest', rfl⟩ := Image.exists_append h'
    have hx := x.decode_append rest
    have hx' := x'.decode_append rest'
    rw [← encode_of_decode hx, ← encode_of_decode hx', hx, hx']
    constructor
    · intro heq
      rw [Except.ok.inj heq]
    · intro heq
      rw [encode_inj (isCanonical_value x) (isCanonical_value x') heq]
  · obtain ⟨x, rest', rfl⟩ := Image.exists_append h
    rw [List.take_left' x.length_toBytes, x.decode_append, x.decode_append]

end RawRecord

end Flowmeter
