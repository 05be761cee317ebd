-- SUMMARY: Log lines.

/-!
# Log lines
-/

namespace Flowmeter.Log

inductive Level where
  | trace
  | debug
  | info
  | warn
  | error
deriving DecidableEq

def Level.name : Level → String
  | .trace => "TRACE"
  | .debug => "DEBUG"
  | .info => "INFO"
  | .warn => "WARN"
  | .error => "ERROR"

/-- From the least to the most urgent. -/
def Level.urgency : Level → Nat
  | .trace => 0
  | .debug => 1
  | .info => 2
  | .warn => 3
  | .error => 4

/-- Whether lines of this level are written when the log is set to `threshold`. -/
def Level.isLoggedAt (level threshold : Level) : Bool := threshold.urgency ≤ level.urgency

structure Line where
  level : Level
  message : String
deriving DecidableEq

def Line.text (line : Line) : String := line.level.name ++ " " ++ line.message

end Flowmeter.Log
