-- SUMMARY: Network links of the host and the choice of the agent's address among theirs.
import Flowmeter.Address.Ip
import Flowmeter.Text.Quoted

/-!
# The agent's address

The agent reports an address of its host. A setting names the interface that
supplies it and the address family. Among the addresses that qualify, in the
order of the links, version 4 addresses are preferred.
-/

namespace Flowmeter

/-- A network interface of the host. -/
structure Link where
  name : String
  up : Bool
  loopback : Bool
  ips : List IpAddr
deriving DecidableEq

/-- Which interface supplies the agent's address. -/
inductive Iface where
  /-- Any interface that is up and leads outside. -/
  | external
  /-- Any loopback interface. -/
  | loopback
  | named (name : String)
deriving DecidableEq

inductive Family where
  | any
  | ipv4
  | ipv6
deriving DecidableEq

namespace Iface

/-- A name is written behind `name:` and may not be empty. -/
def ofText? (s : String) : Option Iface :=
  match s.toList with
  | ['e', 'x', 't', 'e', 'r', 'n', 'a', 'l'] => some .external
  | ['l', 'o', 'c', 'a', 'l'] => some .loopback
  | 'n' :: 'a' :: 'm' :: 'e' :: ':' :: c :: cs => some (.named (String.ofList (c :: cs)))
  | _ => none

def text : Iface → String
  | .external => "External"
  | .loopback => "Local"
  | .named name => "Name(" ++ Text.quote name ++ ")"

def admits (iface : Iface) (link : Link) : Bool :=
  match iface with
  | .external => link.up && !link.loopback
  | .loopback => link.loopback
  | .named name => link.name == name

end Iface

namespace Family

def ofText? : String → Option Family
  | "any" => some .any
  | "ipv4" => some .ipv4
  | "ipv6" => some .ipv6
  | _ => none

def text : Family → String
  | .any => "Any"
  | .ipv4 => "IPv4"
  | .ipv6 => "IPv6"

def admits (family : Family) (ip : IpAddr) : Bool :=
  match family with
  | .any => true
  | .ipv4 => ip.isV4
  | .ipv6 => ip.isV6

end Family

namespace Link

/-- The addresses that qualify, in the order of the links. -/
def candidates (links : List Link) (iface : Iface) (family : Family) : List IpAddr :=
  ((links.filter iface.admits).flatMap (·.ips)).filter family.admits

/-- The first address that qualifies, version 4 addresses being moved to the front. -/
def select? (links : List Link) (iface : Iface) (family : Family) : Option IpAddr :=
  ((candidates links iface family).mergeSort fun a b => a.isV4 || b.isV6).head?

end Link

end Flowmeter
