-- SUMMARY: Internet addresses of both versions and their text forms.
import Flowmeter.Address.Octets
import Flowmeter.Text.Numeral

/-!
# Internet addresses

An address is four or sixteen octets in network order. A version 4 address is
written as four decimal numbers between dots. A version 6 address is written
as eight groups of hexadecimal digits between colons, the first of the longest
runs of two or more zero groups being left out; an address that embeds a
version 4 address keeps that one's form at its end.

Version 4 addresses come before version 6 addresses, and addresses of one
version are ordered by their octets.
-/

namespace Flowmeter

structure Ipv4 where
  octets : Octets 4
deriving DecidableEq

structure Ipv6 where
  octets : Octets 16
deriving DecidableEq

inductive IpAddr where
  | v4 (addr : Ipv4)
  | v6 (addr : Ipv6)
deriving DecidableEq

/-! ## Versions and order -/

namespace IpAddr

def version : IpAddr → Nat
  | .v4 _ => 4
  | .v6 _ => 6

def isV4 (ip : IpAddr) : Bool := ip.version == 4

def isV6 (ip : IpAddr) : Bool := ip.version == 6

def octets : IpAddr → List UInt8
  | .v4 addr => addr.octets.toList
  | .v6 addr => addr.octets.toList

instance : Ord IpAddr := ⟨compareLex (compareOn version) (compareOn octets)⟩

instance : Std.TransOrd IpAddr :=
  inferInstanceAs (Std.TransCmp (compareLex (compareOn version) (compareOn octets)))

theorem eq_of_version_of_octets {a b : IpAddr} (hv : a.version = b.version)
    (ho : a.octets = b.octets) : a = b := by
  cases a with
  | v4 a =>
    cases b with
    | v4 b => exact congrArg (fun o => IpAddr.v4 ⟨o⟩) (Octets.ext (n := 4) ho)
    | v6 b => cases hv
  | v6 a =>
    cases b with
    | v4 b => cases hv
    | v6 b => exact congrArg (fun o => IpAddr.v6 ⟨o⟩) (Octets.ext (n := 16) ho)

instance : Std.LawfulEqOrd IpAddr where
  eq_of_compare {a b} h := by
    obtain ⟨hv, ho⟩ := Ordering.then_eq_eq.1 h
    exact eq_of_version_of_octets (Std.LawfulEqOrd.eq_of_compare (α := Nat) hv)
      (Std.LawfulEqOrd.eq_of_compare (α := List UInt8) ho)

/-- The address of no host, `0.0.0.0`. -/
def unspecified : IpAddr := .v4 ⟨⟨[0, 0, 0, 0], rfl⟩⟩

end IpAddr

/-! ## Version 4 inside version 6 -/

/-- Ten zeros and two octets of ones, which mark an embedded version 4 address. -/
def mappedOctets : List UInt8 := [0, 0, 0, 0, 0, 0, 0, 0, 0, 0, 0xff, 0xff]

namespace Ipv4

/-- The version 6 address that embeds `addr`. -/
def mapped (addr : Ipv4) : Ipv6 :=
  ⟨⟨mappedOctets ++ addr.octets.toList, by simp [addr.octets.length_eq, mappedOctets]⟩⟩

end Ipv4

namespace Ipv6

/-- The embedded version 4 address, if there is one. -/
def embedded? (addr : Ipv6) : Option Ipv4 :=
  if addr.octets.toList.take 12 = mappedOctets then
    some ⟨⟨addr.octets.toList.drop 12, by simp [addr.octets.length_eq]⟩⟩
  else none

end Ipv6

namespace IpAddr

/-- The sixteen octets of an address, a version 4 address being embedded. -/
def toV6 : IpAddr → Ipv6
  | .v4 addr => addr.mapped
  | .v6 addr => addr

/-- The address behind sixteen octets, an embedded version 4 address being unwrapped. -/
def ofV6 (addr : Ipv6) : IpAddr :=
  match addr.embedded? with
  | some addr => .v4 addr
  | none => .v6 addr

end IpAddr

/-! ## Writing -/

def Ipv4.chars (addr : Ipv4) : List Char :=
  ['.'].intercalate (addr.octets.toList.map fun b => Text.digits 10 b.toNat)

namespace Ipv6

/-- Pairs of octets, each read as one number. -/
def pairs : List UInt8 → List Nat
  | hi :: lo :: rest => (hi.toNat * 256 + lo.toNat) :: pairs rest
  | _ => []

/-- The eight groups of sixteen bits. -/
def groups (addr : Ipv6) : List Nat := pairs addr.octets.toList

/-- How many groups from index `i` on are zero without a break. -/
def zerosAt (groups : List Nat) (i : Nat) : Nat :=
  ((groups.drop i).takeWhile (· == 0)).length

/-- Start and length of the first of the longest runs of zero groups. -/
def longestZeros (groups : List Nat) : Nat × Nat :=
  (List.range groups.length).foldl
    (fun best i => if best.2 < zerosAt groups i then (i, zerosAt groups i) else best) (0, 0)

def groupChars (groups : List Nat) : List Char :=
  [':'].intercalate (groups.map (Text.digits 16))

def chars (addr : Ipv6) : List Char :=
  match addr.embedded? with
  | some inner => [':', ':', 'f', 'f', 'f', 'f', ':'] ++ inner.chars
  | none =>
    let (start, length) := longestZeros addr.groups
    if 1 < length then
      groupChars (addr.groups.take start) ++ [':', ':']
        ++ groupChars (addr.groups.drop (start + length))
    else groupChars addr.groups

end Ipv6

namespace IpAddr

def chars : IpAddr → List Char
  | .v4 addr => addr.chars
  | .v6 addr => addr.chars

def text (ip : IpAddr) : String := String.ofList ip.chars

end IpAddr

/-! ## Reading -/

namespace Ipv4

/-- One number of a dotted form: at most three digits, below 256, no leading zero. -/
def readPart? (cs : List Char) : Option (UInt8 × List Char) := do
  let ds := cs.takeWhile (·.isDigit)
  guard (ds.length ≤ 3 ∧ (ds.head? = some '0' → ds.length = 1))
  let n ← Text.digits? 10 ds
  guard (n < 256)
  return (UInt8.ofNat n, cs.dropWhile (·.isDigit))

/-- `count` more numbers of a dotted form, each behind a dot. -/
def readParts? : Nat → List Char → Option (List UInt8 × List Char)
  | 0, cs => some ([], cs)
  | count + 1, '.' :: cs => do
    let (part, rest) ← readPart? cs
    let (parts, rest) ← readParts? count rest
    return (part :: parts, rest)
  | _ + 1, _ => none

/-- A dotted form at the front of `cs`, and what follows it. -/
def read? (cs : List Char) : Option (Ipv4 × List Char) := do
  let (part, rest) ← readPart? cs
  let (parts, rest) ← readParts? 3 rest
  return (⟨← Octets.ofList? 4 (part :: parts)⟩, rest)

end Ipv4

namespace Ipv6

def isHexDigit (c : Char) : Bool := (Text.digit? 16 c).isSome

/-- One group: one to four hexadecimal digits. -/
def readGroup? (cs : List Char) : Option (Nat × List Char) := do
  let ds := cs.takeWhile isHexDigit
  guard (ds.length ≤ 4)
  return (← Text.digits? 16 ds, cs.dropWhile isHexDigit)

/-- The text after the colon that separates a group from the one before it. -/
def afterSeparator? (first : Bool) : List Char → Option (List Char)
  | cs => if first then some cs else
    match cs with
    | ':' :: cs => some cs
    | _ => none

/-- The groups at the front of `cs`, `room` at most, and what follows them. The
last two may be written as a dotted form, which ends the groups; the flag says
whether that happened. -/
def readGroups : Nat → Bool → List Char → List Nat × Bool × List Char
  | 0, _, cs => ([], false, cs)
  | room + 1, first, cs =>
    match (if 0 < room then (afterSeparator? first cs).bind Ipv4.read? else none) with
    | some (tail, rest) => (pairs tail.octets.toList, true, rest)
    | none =>
      match (afterSeparator? first cs).bind readGroup? with
      | some (group, rest) =>
        let (groups, dotted, rest) := readGroups room false rest
        (group :: groups, dotted, rest)
      | none => ([], false, cs)

/-- The address of eight groups. -/
def ofGroups? (groups : List Nat) : Option Ipv6 := do
  let octets := groups.flatMap fun g => [UInt8.ofNat (g / 256), UInt8.ofNat (g % 256)]
  return ⟨← Octets.ofList? 16 octets⟩

/-- Reads a whole text: eight groups, or fewer than eight around one `::`. A
dotted form may only end the text. -/
def ofChars? (cs : List Char) : Option Ipv6 :=
  match readGroups 8 true cs with
  | (head, dotted, rest) =>
    if head.length = 8 then
      if rest = [] then ofGroups? head else none
    else if dotted then none
    else
      match rest with
      | ':' :: ':' :: rest =>
        match readGroups (7 - head.length) true rest with
        | (tail, _, []) =>
          ofGroups? (head ++ List.replicate (8 - head.length - tail.length) 0 ++ tail)
        | _ => none
      | _ => none

end Ipv6

namespace IpAddr

/-- Reads an address of either version. -/
def ofChars? (cs : List Char) : Option IpAddr :=
  match Ipv4.read? cs with
  | some (addr, []) => some (.v4 addr)
  | _ => (Ipv6.ofChars? cs).map .v6

def ofText? (s : String) : Option IpAddr := ofChars? s.toList

end IpAddr

end Flowmeter
