-- SUMMARY: The flags and options of the command line, with their spellings, values and descriptions.

/-!
# Flags and options

Every flag and option has a long name behind two dashes; some flags have a
letter behind one dash too. An option takes a value, which may be restricted
to a few choices.
-/

namespace Flowmeter.CommandLine

inductive Key where
  | input
  | exportKind
  | host
  | port
  | brokers
  | topic
  | maxFlows
  | activeTimeout
  | bufferLength
  | deduper
  | justMark
  | dedupExpiry
  | logTimeout
  | agentIp
  | agentIpIface
  | agentIpType
  | refresh
  | verbose
  | help
  | version
deriving DecidableEq

namespace Key

/-- Every key, in the order of declaration. -/
def all : List Key :=
  [.input, .exportKind, .host, .port, .brokers, .topic, .maxFlows, .activeTimeout, .bufferLength,
    .deduper, .justMark, .dedupExpiry, .logTimeout, .agentIp, .agentIpIface, .agentIpType, .refresh,
    .verbose, .help, .version]

def long : Key → String
  | .input => "input"
  | .exportKind => "export"
  | .host => "host"
  | .port => "port"
  | .brokers => "kafka-brokers"
  | .topic => "kafka-topic"
  | .maxFlows => "cache-max-flows"
  | .activeTimeout => "cache-active-timeout"
  | .bufferLength => "buffer-length"
  | .deduper => "deduper"
  | .justMark => "deduper-just-mark"
  | .dedupExpiry => "deduper-fc-expiry"
  | .logTimeout => "log-timeout"
  | .agentIp => "agent-ip"
  | .agentIpIface => "agent-ip-iface"
  | .agentIpType => "agent-ip-type"
  | .refresh => "interfaces-refresh"
  | .verbose => "verbose"
  | .help => "help"
  | .version => "version"

def letter? : Key → Option Char
  | .verbose => some 'v'
  | .help => some 'h'
  | .version => some 'V'
  | _ => none

/-- What an option calls its value; flags have none. -/
def valueName? : Key → Option String
  | .input => some "path"
  | .exportKind | .deduper => some "kind"
  | .host => some "host"
  | .port => some "port"
  | .brokers => some "brokers"
  | .topic => some "topic"
  | .maxFlows | .bufferLength => some "count"
  | .activeTimeout | .dedupExpiry | .logTimeout | .refresh => some "duration"
  | .agentIp => some "addr"
  | .agentIpIface => some "iface"
  | .agentIpType => some "family"
  | .justMark | .verbose | .help | .version => none

def takesValue (key : Key) : Bool := key.valueName?.isSome

def description : Key → String
  | .input => "raw flow event file or FIFO"
  | .exportKind => "export kind"
  | .host => "target host"
  | .port => "target port"
  | .brokers => "kafka brokers"
  | .topic => "kafka topic"
  | .maxFlows => "max cached flows"
  | .activeTimeout => "flow active timeout"
  | .bufferLength => "queue length between stages"
  | .deduper => "deduplication strategy"
  | .justMark => "mark duplicates instead of dropping them"
  | .dedupExpiry => "first-come ownership expiry"
  | .logTimeout => "overflow log summary interval"
  | .agentIp => "agent IP address"
  | .agentIpIface => "agent IP source (external, local, name:<if>)"
  | .agentIpType => "agent IP family"
  | .refresh => "interface refresh interval"
  | .verbose => "verbose output"
  | .help => "Prints help information"
  | .version => "Prints version information"

/-- The values an option is restricted to, if it is. -/
def choices : Key → List String
  | .exportKind => ["grpc", "kafka", "tcp"]
  | .deduper => ["none", "first-come"]
  | .agentIpType => ["any", "ipv4", "ipv6"]
  | _ => []

def default? : Key → Option String
  | .exportKind => some "grpc"
  | _ => none

/-- Whether the key may be repeated. An option that may takes several values at once, too. -/
def isRepeatable : Key → Bool
  | .brokers | .verbose => true
  | _ => false

/-- The keys that have to be there. -/
def required : List Key := [.input]

/-- The key with its dashes and the name of its value. -/
def usage (key : Key) : String :=
  "--" ++ key.long ++
    match key.valueName? with
    | none => ""
    | some name => " <" ++ name ++ ">" ++ if key.isRepeatable then "..." else ""

def ofLong? (name : String) : Option Key := all.find? fun key => key.long == name

def ofLetter? (letter : Char) : Option Key := all.find? fun key => key.letter? == some letter

end Key

end Flowmeter.CommandLine
