-- SUMMARY: From arguments to settings.
import Flowmeter.CommandLine.Usage
import Flowmeter.Config
import Flowmeter.Text.Blank
import Flowmeter.Time.DurationText

/-!
# Settings from the command line

Numbers, durations and the agent's address are converted in a fixed order, and
the first value that cannot be converted is reported, unless a duration before
it breaks the conversion off.
-/

namespace Flowmeter.CommandLine

/-- Why a value cannot be converted. -/
inductive ArgumentError where
  | invalid (value : String)
deriving DecidableEq

def ArgumentError.message : ArgumentError → String
  | .invalid value => "error: invalid argument value '" ++ value ++ "'"

/-- What is converted from a value, an error that is reported, or neither. -/
abbrev Conversion := ExceptT ArgumentError (Except TimeOverflow)

namespace Arguments

variable (a : Arguments)

/-- The converted value of the key, if it has one. -/
def convert? {α : Type} (key : Key) (read : String → Conversion α) : Conversion (Option α) :=
  match a.value? key with
  | none => return none
  | some value => return some (← read value)

/-- The value, if it can be read at all. -/
def readable {α : Type} (value : String) : Option α → Conversion α
  | some a => return a
  | none => throw (.invalid value)

def readNat (limit : Nat) (value : String) : Conversion Nat :=
  readable value (Text.unsigned? 10 limit value.toList)

def port? (key : Key) : Conversion (Option UInt16) :=
  a.convert? key fun value => return UInt16.ofNat (← readNat UInt16.size value)

def count? (key : Key) : Conversion (Option UInt64) :=
  a.convert? key fun value => return UInt64.ofNat (← readNat UInt64.size value)

def duration? (key : Key) : Conversion (Option Duration) :=
  a.convert? key fun value => do readable value (← DurationText.parse value)

def ip? (key : Key) : Conversion (Option IpAddr) :=
  a.convert? key fun value => readable value (IpAddr.ofText? value)

/-- The parts of the values between commas, without blanks around them and without empty ones. -/
def list (key : Key) : List String :=
  let parts := (a.values key).flatMap fun value => Text.splitAt ',' value.toList
  ((parts.map Text.trim).filter (· ≠ [])).map String.ofList

def config : Except TimeOverflow (Except ArgumentError Config) := ExceptT.run do
  let defaults := Config.default
  let text (key : Key) (default : String) : String := (a.value? key).getD default
  let targetPort ← a.port? .port
  let cacheMaxFlows ← a.count? .maxFlows
  let cacheActiveTimeout ← a.duration? .activeTimeout
  let bufferLength ← a.count? .bufferLength
  let deduperExpiry ← a.duration? .dedupExpiry
  let logTimeout ← a.duration? .logTimeout
  let agentIp ← a.ip? .agentIp
  let interfacesRefresh ← a.duration? .refresh
  return {
    exportKind := text .exportKind defaults.exportKind
    targetHost := text .host defaults.targetHost
    targetPort := targetPort.getD defaults.targetPort
    kafkaBrokers := a.list .brokers
    kafkaTopic := text .topic defaults.kafkaTopic
    cacheMaxFlows := cacheMaxFlows.getD defaults.cacheMaxFlows
    cacheActiveTimeout := cacheActiveTimeout.getD defaults.cacheActiveTimeout
    bufferLength := bufferLength.getD defaults.bufferLength
    deduper := text .deduper defaults.deduper
    deduperJustMark := a.contains .justMark
    deduperExpiry
    logTimeout := logTimeout.getD defaults.logTimeout
    agentIp
    agentIpIface := text .agentIpIface defaults.agentIpIface
    agentIpType := text .agentIpType defaults.agentIpType
    interfacesRefresh := interfacesRefresh.getD defaults.interfacesRefresh }

end Arguments

end Flowmeter.CommandLine
