-- SUMMARY: Settings of the agent, their defaults, and the checks they pass before the agent starts.
import Flowmeter.Dedup
import Flowmeter.Link.Address

/-!
# Settings

Settings arrive as text and numbers. Reading the export target, the
deduplication and the source of the agent's address each fails with a cause of
its own, and validation reports the first cause in a fixed order: the target,
the deduplication, the address source, then the sizes. An active timeout that
cannot be doubled is no such cause: it breaks off whoever reads the
deduplication.
-/

namespace Flowmeter

/-! ## Causes -/

/-- A setting that the chosen export needs and does not have. -/
inductive Setting where
  | targetHost
  | targetPort
  | kafkaBrokers
  | kafkaTopic
deriving DecidableEq

def Setting.name : Setting → String
  | .targetHost => "target host"
  | .targetPort => "target port"
  | .kafkaBrokers => "kafka brokers"
  | .kafkaTopic => "kafka topic"

/-- A setting with a value that is never right. -/
inductive InvalidSetting where
  | agentIpIface (text : String)
  | agentIpType (text : String)
  | cacheMaxFlows
  | cacheActiveTimeout
  | bufferLength
deriving DecidableEq

def InvalidSetting.message : InvalidSetting → String
  | .agentIpIface s => "agent ip iface '" ++ s ++ "'"
  | .agentIpType s => "agent ip type '" ++ s ++ "'"
  | .cacheMaxFlows => "cache max flows must be positive"
  | .cacheActiveTimeout => "cache active timeout must be positive"
  | .bufferLength => "buffer length must be positive"

inductive ConfigError where
  | exportKind (kind : String)
  | missing (setting : Setting)
  | deduperKind (kind : String)
  | invalid (setting : InvalidSetting)
  /-- No address of the family on the interface. -/
  | address (family : Family) (iface : Iface)
deriving DecidableEq

def ConfigError.message : ConfigError → String
  | .exportKind kind => "invalid export kind '" ++ kind ++ "'"
  | .missing setting => "missing required setting '" ++ setting.name ++ "'"
  | .deduperKind kind => "invalid deduper kind '" ++ kind ++ "'"
  | .invalid setting => "invalid configuration: " ++ setting.message
  | .address family iface =>
    "agent address: no " ++ family.text ++ " address on " ++ iface.text ++ " interface"

/-! ## Settings -/

structure Config where
  exportKind : String
  targetHost : String
  targetPort : UInt16
  kafkaBrokers : List String
  kafkaTopic : String
  cacheMaxFlows : UInt64
  cacheActiveTimeout : Duration
  bufferLength : UInt64
  deduper : String
  deduperJustMark : Bool
  deduperExpiry : Option Duration
  logTimeout : Duration
  agentIp : Option IpAddr
  agentIpIface : String
  agentIpType : String
  interfacesRefresh : Duration
deriving DecidableEq

/-- Where flows go. -/
inductive Target where
  | grpc (host : String) (port : UInt16)
  | kafka (brokers : List String) (topic : String)
  | tcp (host : String) (port : UInt16)
deriving DecidableEq

def Target.text : Target → String
  | .grpc host port => "Grpc \x7b host: " ++ Text.quote host ++ ", port: " ++ Text.decimal port.toNat ++ " \x7d"
  | .kafka brokers topic =>
    "Kafka \x7b brokers: " ++ Text.quoteList brokers ++ ", topic: " ++ Text.quote topic ++ " \x7d"
  | .tcp host port => "Tcp \x7b host: " ++ Text.quote host ++ ", port: " ++ Text.decimal port.toNat ++ " \x7d"

namespace Config

def default : Config where
  exportKind := "grpc"
  targetHost := ""
  targetPort := 0
  kafkaBrokers := []
  kafkaTopic := "network-flows"
  cacheMaxFlows := 5000
  cacheActiveTimeout := .ofSeconds 5
  bufferLength := 50
  deduper := "none"
  deduperJustMark := false
  deduperExpiry := none
  logTimeout := .ofSeconds 5
  agentIp := none
  agentIpIface := "external"
  agentIpType := "any"
  interfacesRefresh := .ofSeconds 60

/-- The host and port that a connection goes to. -/
def endpoint (cfg : Config) : Except ConfigError (String × UInt16) :=
  if cfg.targetHost = "" then .error (.missing .targetHost)
  else if cfg.targetPort = 0 then .error (.missing .targetPort)
  else .ok (cfg.targetHost, cfg.targetPort)

def target (cfg : Config) : Except ConfigError Target :=
  match cfg.exportKind with
  | "grpc" => do
    let (host, port) ← cfg.endpoint
    return .grpc host port
  | "tcp" => do
    let (host, port) ← cfg.endpoint
    return .tcp host port
  | "kafka" =>
    let brokers := cfg.kafkaBrokers.filter (· ≠ "")
    if brokers = [] then .error (.missing .kafkaBrokers)
    else if cfg.kafkaTopic = "" then .error (.missing .kafkaTopic)
    else .ok (.kafka brokers cfg.kafkaTopic)
  | kind => .error (.exportKind kind)

/-- An ownership lasts two active timeouts unless a setting says otherwise. The
default is computed in any case, so it may overflow even where it is not used. -/
def dedup (cfg : Config) :
    Except TimeOverflow (Except ConfigError (Dedup.Kind × Dedup.Mode × Duration)) :=
  match Dedup.Kind.ofText? cfg.deduper with
  | none => return .error (.deduperKind cfg.deduper)
  | some kind => do
    let twice ← cfg.cacheActiveTimeout.double
    return .ok (kind, .ofJustMark cfg.deduperJustMark, cfg.deduperExpiry.getD twice)

def agentIpSource (cfg : Config) : Except ConfigError (Iface × Family) :=
  match Iface.ofText? cfg.agentIpIface with
  | none => .error (.invalid (.agentIpIface cfg.agentIpIface))
  | some iface =>
    match Family.ofText? cfg.agentIpType with
    | none => .error (.invalid (.agentIpType cfg.agentIpType))
    | some family => .ok (iface, family)

def checkSizes (cfg : Config) : Except ConfigError Unit :=
  if cfg.cacheMaxFlows = 0 then .error (.invalid .cacheMaxFlows)
  else if cfg.cacheActiveTimeout = .zero then .error (.invalid .cacheActiveTimeout)
  else if cfg.bufferLength = 0 then .error (.invalid .bufferLength)
  else .ok ()

/-- Reports the first setting that keeps the agent from starting. A bad target is
reported before the deduplication is read. -/
def validate (cfg : Config) : Except TimeOverflow (Except ConfigError Unit) :=
  match cfg.target with
  | .error cause => return .error cause
  | .ok _ => do
    let dedup ← cfg.dedup
    return do
      let _ ← dedup
      let _ ← cfg.agentIpSource
      cfg.checkSizes

end Config

/-- The agent's address among those of the host's links. -/
def Link.select (links : List Link) (iface : Iface) (family : Family) :
    Except ConfigError IpAddr :=
  match Link.select? links iface family with
  | some ip => .ok ip
  | none => .error (.address family iface)

namespace Config

/-- The address the agent reports: the configured one, or one of the host's. -/
def resolveAgentIp (cfg : Config) (links : List Link) : Except ConfigError IpAddr :=
  match cfg.agentIp with
  | some ip => .ok ip
  | none => do
    let (iface, family) ← cfg.agentIpSource
    Link.select links iface family

end Config

end Flowmeter
