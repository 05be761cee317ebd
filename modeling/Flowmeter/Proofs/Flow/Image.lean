-- SUMMARY: The wire form of a record as a structure of octets, which both reading and writing go through.
import Flowmeter.Flow.Wire
import Mathlib.Algebra.Group.Nat.Defs

/-!
# Images of records

Between a record and its bytes stands its image: for each field the octets that
hold it. The bytes of images of one kind are all of one length, any bytes that
are long enough begin with an image, and reading takes an image off the front
and gives each field its value. What is left to be said of reading and writing
concerns single fields.
-/

namespace Flowmeter

/-! ## Little endian numbers -/

namespace Bytes

theorem length_ofNatLE (width n : Nat) : (ofNatLE width n).length = width := by
  induction width generalizing n with
  | zero => rfl
  | succ width ih => rw [ofNatLE, List.length_cons, ih]

theorem toNatLE_lt (bs : Bytes) : toNatLE bs < 256 ^ bs.length := by
  induction bs with
  | nil => exact Nat.one_pos
  | cons b bs ih =>
    have hb := b.toNat_lt
    rw [toNatLE, List.length_cons, Nat.pow_succ]
    omega

theorem toNatLE_ofNatLE {width n : Nat} (h : n < 256 ^ width) :
    toNatLE (ofNatLE width n) = n := by
  induction width generalizing n with
  | zero =>
    rw [Nat.pow_zero] at h
    exact (Nat.lt_one_iff.1 h).symm
  | succ width ih =>
    have hdiv : n / 256 < 256 ^ width := by
      rw [Nat.pow_succ] at h
      exact Nat.div_lt_of_lt_mul (Nat.mul_comm _ _ ▸ h)
    rw [ofNatLE, toNatLE, ih hdiv, UInt8.toNat_ofNat']
    exact Nat.mod_add_div n 256

theorem ofNatLE_toNatLE (bs : Bytes) : ofNatLE bs.length (toNatLE bs) = bs := by
  induction bs with
  | nil => rfl
  | cons b bs ih =>
    have hb : b.toNat < 256 := b.toNat_lt
    have hlow : UInt8.ofNat (b.toNat + 256 * toNatLE bs) = b := by
      rw [← UInt8.toNat_inj, UInt8.toNat_ofNat']
      omega
    have hhigh : (b.toNat + 256 * toNatLE bs) / 256 = toNatLE bs := by omega
    rw [List.length_cons, toNatLE, ofNatLE, hlow, hhigh, ih]

/-- Bytes begin with a byte if there is any. -/
theorem exists_cons {k : Nat} {bs : Bytes} (h : 1 + k ≤ bs.length) :
    ∃ (b : UInt8) (rest : Bytes), bs = b :: rest ∧ k ≤ rest.length := by
  cases bs with
  | nil => exact absurd h (by simp)
  | cons b rest =>
    rw [List.length_cons] at h
    exact ⟨b, rest, rfl, by omega⟩

end Bytes

namespace Octets

def ofNatLE (n value : Nat) : Octets n := ⟨Bytes.ofNatLE n value, Bytes.length_ofNatLE n value⟩

def toNatLE {n : Nat} (o : Octets n) : Nat := Bytes.toNatLE o.toList

variable {n : Nat}

theorem toNatLE_lt (o : Octets n) : o.toNatLE < 256 ^ n := by
  have h := Bytes.toNatLE_lt o.toList
  rwa [o.length_eq] at h

theorem ofNatLE_toNatLE (o : Octets n) : ofNatLE n o.toNatLE = o := by
  have h := Bytes.ofNatLE_toNatLE o.toList
  rw [o.length_eq] at h
  exact ext h

theorem toNatLE_ofNatLE {value : Nat} (h : value < 256 ^ n) : (ofNatLE n value).toNatLE = value :=
  Bytes.toNatLE_ofNatLE h

/-! Octets that hold a number of a fixed width are as good as the number. -/

theorem ofNatLE_toNat_u16 (o : Octets 2) : ofNatLE 2 (UInt16.ofNat o.toNatLE).toNat = o := by
  rw [UInt16.toNat_ofNat_of_lt' o.toNatLE_lt, ofNatLE_toNatLE]

theorem ofNatLE_toNat_u32 (o : Octets 4) : ofNatLE 4 (UInt32.ofNat o.toNatLE).toNat = o := by
  rw [UInt32.toNat_ofNat_of_lt' o.toNatLE_lt, ofNatLE_toNatLE]

theorem ofNatLE_toNat_u64 (o : Octets 8) : ofNatLE 8 (UInt64.ofNat o.toNatLE).toNat = o := by
  rw [UInt64.toNat_ofNat_of_lt' o.toNatLE_lt, ofNatLE_toNatLE]

theorem u16_toNatLE_ofNatLE (word : UInt16) :
    UInt16.ofNat (ofNatLE 2 word.toNat).toNatLE = word := by
  rw [toNatLE_ofNatLE word.toNat_lt, UInt16.ofNat_toNat]

theorem u32_toNatLE_ofNatLE (word : UInt32) :
    UInt32.ofNat (ofNatLE 4 word.toNat).toNatLE = word := by
  rw [toNatLE_ofNatLE word.toNat_lt, UInt32.ofNat_toNat]

theorem u64_toNatLE_ofNatLE (word : UInt64) :
    UInt64.ofNat (ofNatLE 8 word.toNat).toNatLE = word := by
  rw [toNatLE_ofNatLE word.toNat_lt, UInt64.ofNat_toNat]

/-- Bytes begin with any number of octets that they are long enough for. -/
theorem exists_append {k : Nat} {bs : Bytes} (h : n + k ≤ bs.length) :
    ∃ (o : Octets n) (rest : Bytes), bs = o.toList ++ rest ∧ k ≤ rest.length := by
  refine ⟨⟨bs.take n, ?_⟩, bs.drop n, (List.take_append_drop n bs).symm, ?_⟩
  · exact List.length_take_of_le (Nat.le_trans (Nat.le_add_right n k) h)
  · rw [List.length_drop]
    omega

end Octets

/-! ## Reading fields -/

namespace FieldReader

/-- What is read first goes to the reader that follows, with the bytes that are left. -/
theorem bind_eq {α β : Type} {read : FieldReader α} {next : α → FieldReader β} {a : α}
    {bs rest : Bytes} (h : read bs = some (a, rest)) : (read >>= next) bs = next a rest := by
  simp [bind, StateT.bind, h]

variable (rest : Bytes)

theorem take_append {n : Nat} (o : Octets n) : take n (o.toList ++ rest) = some (o.toList, rest) := by
  have hlength : n ≤ (o.toList ++ rest).length := by
    rw [List.length_append, o.length_eq]
    exact Nat.le_add_right _ _
  rw [take, if_pos hlength, List.take_left' o.length_eq, List.drop_left' o.length_eq]

theorem octets_append {n : Nat} (o : Octets n) : octets n (o.toList ++ rest) = some (o, rest) := by
  have hoctets : Octets.ofList? n o.toList = some o := dif_pos o.length_eq
  rw [octets, bind_eq (take_append rest o), hoctets]
  rfl

theorem nat_append {n : Nat} (o : Octets n) : nat n (o.toList ++ rest) = some (o.toNatLE, rest) := by
  rw [nat, bind_eq (take_append rest o)]
  rfl

theorem u8_cons (b : UInt8) : u8 (b :: rest) = some (b, rest) := by
  have hnat : nat 1 (b :: rest) = some (b.toNat, rest) := nat_append rest ⟨[b], rfl⟩
  rw [u8, bind_eq hnat, UInt8.ofNat_toNat]
  rfl

theorem u16_append (o : Octets 2) : u16 (o.toList ++ rest) = some (.ofNat o.toNatLE, rest) := by
  rw [u16, bind_eq (nat_append rest o)]
  rfl

theorem u32_append (o : Octets 4) : u32 (o.toList ++ rest) = some (.ofNat o.toNatLE, rest) := by
  rw [u32, bind_eq (nat_append rest o)]
  rfl

theorem u64_append (o : Octets 8) : u64 (o.toList ++ rest) = some (.ofNat o.toNatLE, rest) := by
  rw [u64, bind_eq (nat_append rest o)]
  rfl

theorem mac_append (o : Octets 6) : mac (o.toList ++ rest) = some (⟨o⟩, rest) := by
  rw [mac, bind_eq (octets_append rest o)]
  rfl

theorem ip_append (o : Octets 16) : ip (o.toList ++ rest) = some (.ofV6 ⟨o⟩, rest) := by
  rw [ip, bind_eq (octets_append rest o)]
  rfl

end FieldReader

/-! ## Identities -/

/-- The octets of an identity, field by field. -/
structure FlowId.Image where
  ethProtocol : Octets 2
  direction : UInt8
  srcMac : Octets 6
  dstMac : Octets 6
  srcAddr : Octets 16
  dstAddr : Octets 16
  srcPort : Octets 2
  dstPort : Octets 2
  protocol : UInt8
  icmpType : UInt8
  icmpCode : UInt8
  ifIndex : Octets 4

namespace FlowId.Image

def toBytes (v : Image) : Bytes :=
  v.ethProtocol.toList
    ++ [v.direction]
    ++ v.srcMac.toList
    ++ v.dstMac.toList
    ++ v.srcAddr.toList
    ++ v.dstAddr.toList
    ++ v.srcPort.toList
    ++ v.dstPort.toList
    ++ [v.protocol, v.icmpType, v.icmpCode]
    ++ v.ifIndex.toList

/-- The identity that the octets stand for. -/
def value (v : Image) : FlowId where
  ethProtocol := .ofNat v.ethProtocol.toNatLE
  direction := .ofCode v.direction
  srcMac := ⟨v.srcMac⟩
  dstMac := ⟨v.dstMac⟩
  srcAddr := .ofV6 ⟨v.srcAddr⟩
  dstAddr := .ofV6 ⟨v.dstAddr⟩
  srcPort := .ofNat v.srcPort.toNatLE
  dstPort := .ofNat v.dstPort.toNatLE
  protocol := .ofNumber v.protocol
  icmpType := v.icmpType
  icmpCode := v.icmpCode
  ifIndex := .ofNat v.ifIndex.toNatLE

theorem length_toBytes (v : Image) : v.toBytes.length = 58 := by
  simp [toBytes, Octets.length_eq]

open FieldReader in
theorem flowId_append (v : Image) (rest : Bytes) :
    FieldReader.flowId (v.toBytes ++ rest) = some (v.value, rest) := by
  simp only [toBytes, List.append_assoc, List.cons_append, List.nil_append]
  rw [flowId, bind_eq (u16_append _ _), bind_eq (u8_cons _ _), bind_eq (mac_append _ _),
    bind_eq (mac_append _ _), bind_eq (ip_append _ _), bind_eq (ip_append _ _),
    bind_eq (u16_append _ _), bind_eq (u16_append _ _), bind_eq (u8_cons _ _),
    bind_eq (u8_cons _ _), bind_eq (u8_cons _ _), bind_eq (u32_append _ _)]
  rfl

/-- Bytes that are long enough for a record begin with the image of an identity, and leave
enough for metrics. -/
theorem exists_append {bs : Bytes} (h : 89 ≤ bs.length) :
    ∃ (v : Image) (rest : Bytes), bs = v.toBytes ++ rest ∧ 31 ≤ rest.length := by
  obtain ⟨ethProtocol, bs₁, rfl, h₁⟩ := Octets.exists_append (n := 2) (k := 87) h
  obtain ⟨direction, bs₂, rfl, h₂⟩ := Bytes.exists_cons (k := 86) h₁
  obtain ⟨srcMac, bs₃, rfl, h₃⟩ := Octets.exists_append (n := 6) (k := 80) h₂
  obtain ⟨dstMac, bs₄, rfl, h₄⟩ := Octets.exists_append (n := 6) (k := 74) h₃
  obtain ⟨srcAddr, bs₅, rfl, h₅⟩ := Octets.exists_append (n := 16) (k := 58) h₄
  obtain ⟨dstAddr, bs₆, rfl, h₆⟩ := Octets.exists_append (n := 16) (k := 42) h₅
  obtain ⟨srcPort, bs₇, rfl, h₇⟩ := Octets.exists_append (n := 2) (k := 40) h₆
  obtain ⟨dstPort, bs₈, rfl, h₈⟩ := Octets.exists_append (n := 2) (k := 38) h₇
  obtain ⟨protocol, bs₉, rfl, h₉⟩ := Bytes.exists_cons (k := 37) h₈
  obtain ⟨icmpType, bs₁₀, rfl, h₁₀⟩ := Bytes.exists_cons (k := 36) h₉
  obtain ⟨icmpCode, bs₁₁, rfl, h₁₁⟩ := Bytes.exists_cons (k := 35) h₁₀
  obtain ⟨ifIndex, rest, rfl, h₁₂⟩ := Octets.exists_append (n := 4) (k := 31) h₁₁
  refine ⟨⟨ethProtocol, direction, srcMac, dstMac, srcAddr, dstAddr, srcPort, dstPort, protocol,
    icmpType, icmpCode, ifIndex⟩, rest, ?_, h₁₂⟩
  simp only [toBytes, List.append_assoc, List.cons_append, List.nil_append]

end FlowId.Image

/-- The octets that an identity is written as. -/
def FlowId.image (id : FlowId) : FlowId.Image where
  ethProtocol := .ofNatLE 2 id.ethProtocol.toNat
  direction := id.direction.code
  srcMac := id.srcMac.octets
  dstMac := id.dstMac.octets
  srcAddr := id.srcAddr.toV6.octets
  dstAddr := id.dstAddr.toV6.octets
  srcPort := .ofNatLE 2 id.srcPort.toNat
  dstPort := .ofNatLE 2 id.dstPort.toNat
  protocol := id.protocol.number
  icmpType := id.icmpType
  icmpCode := id.icmpCode
  ifIndex := .ofNatLE 4 id.ifIndex.toNat

theorem FlowId.encode_eq_toBytes (id : FlowId) : id.encode = id.image.toBytes := rfl

/-! ## Metrics -/

/-- The octets of metrics, field by field. -/
structure Metrics.Image where
  packets : Octets 4
  bytes : Octets 8
  start : Octets 8
  finish : Octets 8
  flags : Octets 2
  errno : UInt8

namespace Metrics.Image

def toBytes (w : Image) : Bytes :=
  w.packets.toList
    ++ w.bytes.toList
    ++ w.start.toList
    ++ w.finish.toList
    ++ w.flags.toList
    ++ [w.errno]

/-- The metrics that the octets stand for. -/
def value (w : Image) : Metrics where
  packets := .ofNat w.packets.toNatLE
  bytes := .ofNat w.bytes.toNatLE
  start := .ofNat w.start.toNatLE
  finish := .ofNat w.finish.toNatLE
  flags := .ofNat w.flags.toNatLE
  errno := w.errno

theorem length_toBytes (w : Image) : w.toBytes.length = 31 := by
  simp [toBytes, Octets.length_eq]

open FieldReader in
theorem metrics_append (w : Image) (rest : Bytes) :
    FieldReader.metrics (w.toBytes ++ rest) = some (w.value, rest) := by
  simp only [toBytes, List.append_assoc, List.cons_append, List.nil_append]
  rw [metrics, bind_eq (u32_append _ _), bind_eq (u64_append _ _), bind_eq (u64_append _ _),
    bind_eq (u64_append _ _), bind_eq (u16_append _ _), bind_eq (u8_cons _ _)]
  rfl

/-- Bytes that are long enough begin with an image. -/
theorem exists_append {bs : Bytes} (h : 31 ≤ bs.length) :
    ∃ (w : Image) (rest : Bytes), bs = w.toBytes ++ rest := by
  obtain ⟨packets, bs₁, rfl, h₁⟩ := Octets.exists_append (n := 4) (k := 27) h
  obtain ⟨bytes, bs₂, rfl, h₂⟩ := Octets.exists_append (n := 8) (k := 19) h₁
  obtain ⟨start, bs₃, rfl, h₃⟩ := Octets.exists_append (n := 8) (k := 11) h₂
  obtain ⟨finish, bs₄, rfl, h₄⟩ := Octets.exists_append (n := 8) (k := 3) h₃
  obtain ⟨flags, bs₅, rfl, h₅⟩ := Octets.exists_append (n := 2) (k := 1) h₄
  obtain ⟨errno, rest, rfl, -⟩ := Bytes.exists_cons (k := 0) h₅
  refine ⟨⟨packets, bytes, start, finish, flags, errno⟩, rest, ?_⟩
  simp only [toBytes, List.append_assoc, List.cons_append, List.nil_append]

end Metrics.Image

/-- The octets that metrics are written as. -/
def Metrics.image (m : Metrics) : Metrics.Image where
  packets := .ofNatLE 4 m.packets.toNat
  bytes := .ofNatLE 8 m.bytes.toNat
  start := .ofNatLE 8 m.start.toNat
  finish := .ofNatLE 8 m.finish.toNat
  flags := .ofNatLE 2 m.flags.toNat
  errno := m.errno

theorem Metrics.encode_eq_toBytes (m : Metrics) : m.encode = m.image.toBytes := rfl

/-! ## Records -/

/-- The octets of a record. -/
structure RawRecord.Image where
  id : FlowId.Image
  metrics : Metrics.Image

namespace RawRecord.Image

def toBytes (x : Image) : Bytes := x.id.toBytes ++ x.metrics.toBytes

def value (x : Image) : RawRecord := ⟨x.id.value, x.metrics.value⟩

theorem length_toBytes (x : Image) : x.toBytes.length = 89 := by
  rw [toBytes, List.length_append, x.id.length_toBytes, x.metrics.length_toBytes]

open FieldReader in
theorem rawRecord_append (x : Image) (rest : Bytes) :
    FieldReader.rawRecord (x.toBytes ++ rest) = some (x.value, rest) := by
  rw [toBytes, List.append_assoc, rawRecord, bind_eq (x.id.flowId_append _),
    bind_eq (x.metrics.metrics_append _)]
  rfl

theorem decode_append (x : Image) (rest : Bytes) :
    RawRecord.decode (x.toBytes ++ rest) = .ok x.value := by
  have hlong : ¬ (x.toBytes ++ rest).length < RawRecord.wireSize := by
    rw [List.length_append, x.length_toBytes]
    exact Nat.not_lt.2 (Nat.le_add_right _ _)
  rw [RawRecord.decode, if_neg hlong, x.rawRecord_append]

/-- Bytes that are long enough begin with an image. -/
theorem exists_append {bs : Bytes} (h : 89 ≤ bs.length) :
    ∃ (x : Image) (rest : Bytes), bs = x.toBytes ++ rest := by
  obtain ⟨v, bs₁, rfl, h₁⟩ := FlowId.Image.exists_append h
  obtain ⟨w, rest, rfl⟩ := Metrics.Image.exists_append h₁
  exact ⟨⟨v, w⟩, rest, (List.append_assoc _ _ _).symm⟩

end RawRecord.Image

/-- The octets that a record is written as. -/
def RawRecord.image (r : RawRecord) : RawRecord.Image := ⟨r.id.image, r.metrics.image⟩

theorem RawRecord.encode_eq_toBytes (r : RawRecord) : r.encode = r.image.toBytes := rfl

end Flowmeter
