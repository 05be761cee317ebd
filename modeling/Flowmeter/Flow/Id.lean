-- SUMMARY: The identity of a flow, its text and its order.
import Flowmeter.Address.Ip
import Flowmeter.Address.Mac
import Flowmeter.Text.Numeral

/-!
# Flow identities

A flow is identified by everything that the probe keys its map with, the
interface included. Without the interface it is a logical flow, which may be
seen on several interfaces. Identities are ordered field by field, in the
order in which the fields are declared.
-/

namespace Flowmeter

inductive Direction where
  | ingress
  | egress
  | unknown
deriving DecidableEq

/-- The transport protocol; a number that has a name of its own may still
occur under `other`. -/
inductive Protocol where
  | icmp
  | tcp
  | udp
  | icmpv6
  | other (number : UInt8)
deriving DecidableEq

structure FlowId where
  ethProtocol : UInt16
  direction : Direction
  srcMac : Mac
  dstMac : Mac
  srcAddr : IpAddr
  dstAddr : IpAddr
  srcPort : UInt16
  dstPort : UInt16
  protocol : Protocol
  icmpType : UInt8
  icmpCode : UInt8
  ifIndex : UInt32
deriving DecidableEq

/-! ## Numbers and names -/

namespace Direction

def ofCode (code : UInt8) : Direction :=
  if code = 0 then .ingress else if code = 1 then .egress else .unknown

def code : Direction → UInt8
  | .ingress => 0
  | .egress => 1
  | .unknown => 0xff

def name : Direction → String
  | .ingress => "Ingress"
  | .egress => "Egress"
  | .unknown => "Unknown"

def rank : Direction → Nat
  | .ingress => 0
  | .egress => 1
  | .unknown => 2

instance : Ord Direction := ⟨compareOn rank⟩

instance : Std.TransOrd Direction := inferInstanceAs (Std.TransCmp (compareOn rank))

instance : Std.LawfulEqOrd Direction where
  eq_of_compare {a b} h := by
    have := Std.LawfulEqOrd.eq_of_compare (α := Nat) h
    cases a <;> cases b <;> first | rfl | cases this

end Direction

namespace Protocol

/-- The protocol of a number, under its own name if it has one. -/
def ofNumber (n : UInt8) : Protocol :=
  if n = 1 then .icmp
  else if n = 6 then .tcp
  else if n = 17 then .udp
  else if n = 58 then .icmpv6
  else .other n

def number : Protocol → UInt8
  | .icmp => 1
  | .tcp => 6
  | .udp => 17
  | .icmpv6 => 58
  | .other n => n

def text : Protocol → String
  | .icmp => "ICMP"
  | .tcp => "TCP"
  | .udp => "UDP"
  | .icmpv6 => "ICMPv6"
  | .other n => "Other(" ++ Text.decimal n.toNat ++ ")"

/-- Named protocols come first, then the others by number. -/
def rank : Protocol → Nat
  | .icmp => 0
  | .tcp => 1
  | .udp => 2
  | .icmpv6 => 3
  | .other n => 4 + n.toNat

theorem eq_of_rank_eq {a b : Protocol} (h : a.rank = b.rank) : a = b := by
  cases a <;> cases b <;> simp only [rank] at h <;>
    first
    | rfl
    | omega
    | exact congrArg _ (UInt8.toNat_inj.1 (by omega))

instance : Ord Protocol := ⟨compareOn rank⟩

instance : Std.TransOrd Protocol := inferInstanceAs (Std.TransCmp (compareOn rank))

instance : Std.LawfulEqOrd Protocol where
  eq_of_compare h := eq_of_rank_eq (Std.LawfulEqOrd.eq_of_compare (α := Nat) h)

end Protocol

/-! ## Identities -/

namespace FlowId

/-- The flow regardless of the interface it was seen on. -/
def logical (id : FlowId) : FlowId := { id with ifIndex := 0 }

def text (id : FlowId) : String :=
  id.protocol.text ++ " " ++ id.srcAddr.text ++ ":" ++ Text.decimal id.srcPort.toNat ++ " -> "
    ++ id.dstAddr.text ++ ":" ++ Text.decimal id.dstPort.toNat ++ " if "
    ++ Text.decimal id.ifIndex.toNat

/-- Field by field, in the order of declaration. -/
def cmp : FlowId → FlowId → Ordering :=
  compareLex (compareOn ethProtocol) <|
  compareLex (compareOn direction) <|
  compareLex (compareOn srcMac) <|
  compareLex (compareOn dstMac) <|
  compareLex (compareOn srcAddr) <|
  compareLex (compareOn dstAddr) <|
  compareLex (compareOn srcPort) <|
  compareLex (compareOn dstPort) <|
  compareLex (compareOn protocol) <|
  compareLex (compareOn icmpType) <|
  compareLex (compareOn icmpCode)
    (compareOn ifIndex)

instance : Ord FlowId := ⟨cmp⟩

instance : Std.TransOrd FlowId := by
  unfold Std.TransOrd
  change Std.TransCmp cmp
  unfold cmp
  infer_instance

theorem eq_of_cmp_eq {a b : FlowId} (h : cmp a b = .eq) : a = b := by
  simp only [cmp, compareLex, Ordering.then_eq_eq, compareOn, Std.compare_eq_iff_eq] at h
  cases a; cases b; simp_all

instance : Std.LawfulEqOrd FlowId where
  eq_of_compare h := eq_of_cmp_eq h

/-- Whether `a` comes no later than `b`. -/
def le (a b : FlowId) : Bool := (compare a b).isLE

end FlowId

end Flowmeter
