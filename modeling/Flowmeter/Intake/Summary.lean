-- SUMMARY: Counting events and logging one line for all events of a time window.
import Flowmeter.Log
import Flowmeter.Text.Numeral

/-!
# Summaries

Events are counted as they are forwarded, and a single line per window says
how many there were. The first event after a summary starts a timer, and when
the timer is due it takes the counts, logs them and ends the window.

Threads count at once, so each function below is one access to the shared
counters, and recording and reporting are sequences of them. Counts wrap at
32 bits.
-/

namespace Flowmeter.Intake

/-- The counters that the recording threads and the timer share. -/
structure Window where
  forwarded : UInt32
  mapFull : UInt32
  /-- Set while a timer runs. -/
  active : Bool
deriving DecidableEq

/-- What was counted in one window. -/
structure Summary where
  forwarded : UInt32
  mapFull : UInt32
deriving DecidableEq

def Summary.line (s : Summary) : Log.Line where
  level := .debug
  message :=
    let received := "received " ++ Text.decimal s.forwarded.toNat ++ " flows via ring buffer"
    if s.mapFull = 0 then received
    else
      received ++ ", " ++ Text.decimal s.mapFull.toNat
        ++ " with map full; consider raising the cache max flows"

namespace Window

def empty : Window := ⟨0, 0, false⟩

/-! ## Single accesses -/

@[inline] def countForwarded (w : Window) : Window := { w with forwarded := w.forwarded + 1 }

@[inline] def countMapFull (w : Window) : Window := { w with mapFull := w.mapFull + 1 }

/-- Begins a window unless one is open; whoever begins it starts the timer. -/
@[inline] def begin (w : Window) : Bool × Window := (!w.active, { w with active := true })

def takeForwarded (w : Window) : UInt32 × Window := (w.forwarded, { w with forwarded := 0 })

def takeMapFull (w : Window) : UInt32 × Window := (w.mapFull, { w with mapFull := 0 })

def finish (w : Window) : Window := { w with active := false }

/-! ## Recording and reporting -/

/-- Counts an event, and says whether a timer is to be started. -/
@[inline] def record (w : Window) (mapFull : Bool) : Bool × Window :=
  let w := w.countForwarded
  let w := if mapFull then w.countMapFull else w
  w.begin

/-- Counts `n` events alike. -/
def recordMany (w : Window) (mapFull : Bool) : Nat → Window
  | 0 => w
  | n + 1 => ((w.record mapFull).2).recordMany mapFull n

/-- Takes the counts and ends the window. -/
def report (w : Window) : Summary × Window :=
  let (forwarded, w) := w.takeForwarded
  let (mapFull, w) := w.takeMapFull
  (⟨forwarded, mapFull⟩, w.finish)

end Window

end Flowmeter.Intake
