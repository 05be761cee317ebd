-- SUMMARY: The status an agent reports over its life.

/-!
# Status
-/

namespace Flowmeter.Agent

inductive Status where
  | notStarted
  | starting
  | started
  | stopping
  | stopped
  | failed
deriving DecidableEq

namespace Status

/-- The status of an agent that has not run yet. -/
def initial : Status := .notStarted

/-- The status shared under this number. Unknown numbers mean failure. -/
def ofCode (code : UInt8) : Status :=
  match code.toNat with
  | 0 => .notStarted
  | 1 => .starting
  | 2 => .started
  | 3 => .stopping
  | 4 => .stopped
  | _ => .failed

/-- The status in words. -/
def text : Status → String
  | .notStarted => "not started"
  | .starting => "starting"
  | .started => "started"
  | .stopping => "stopping"
  | .stopped => "stopped"
  | .failed => "failed"

def name : Status → String
  | .notStarted => "NotStarted"
  | .starting => "Starting"
  | .started => "Started"
  | .stopping => "Stopping"
  | .stopped => "Stopped"
  | .failed => "Failed"

end Status

end Flowmeter.Agent
