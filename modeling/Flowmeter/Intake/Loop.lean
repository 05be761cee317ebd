-- SUMMARY: The intake loop, which reads events and forwards the records they hold.
import Flowmeter.Intake.EventStream
import Flowmeter.Intake.Summary

/-!
# Intake loop

The loop reads one event after the other, decodes it and forwards the record
to the cache. An event that cannot be read or decoded is passed over with a
warning; after a reading that failed the loop rests, so that a source in
trouble does not keep it busy. When the probe reports that its own map is full,
everybody who holds flows is told to flush before the record is forwarded.

The loop ends when the source closes, when it is cancelled, or when nobody
receives its records. Both of the latter are noticed late: cancellation before
the next reading, a missing receiver when a record is refused.

A run of the loop is a list of events, in the order in which they happen. The
source is given by the results of its readings, each with what else happens
while the loop waits for it.
-/

namespace Flowmeter.Intake

/-! ## One event -/

/-- What the loop makes of the result of a reading. -/
inductive Received where
  | closed
  /-- The reading failed. -/
  | failed (warning : Log.Line)
  /-- What was read is no event. -/
  | malformed (warning : Log.Line)
  | record (r : RawRecord)
deriving DecidableEq

def warning (cause : String) : Log.Line := ⟨.warn, "ignoring flow event: " ++ cause⟩

def receive : Except ReadError Bytes → Received
  | .error .closed => .closed
  | .error e => .failed (warning ("reading from ring buffer: " ++ e.message))
  | .ok event =>
    match RawRecord.decode event with
    | .error e => .malformed (warning ("parsing ring buffer event: " ++ e.message))
    | .ok r => .record r

/-- How long the loop rests after a reading that failed, in nanoseconds. -/
def restNanos : Nat := 100000000

/-! ## The loop -/

/-- What else happens during a reading. -/
structure Meanwhile where
  /-- The loop is told to end. -/
  isCancelled : Bool
  /-- Whoever receives its records goes away. -/
  isAbandoned : Bool
deriving DecidableEq

namespace Meanwhile

def nothing : Meanwhile := ⟨false, false⟩

def cancelled : Meanwhile := ⟨true, false⟩

def receiverGone : Meanwhile := ⟨false, true⟩

end Meanwhile

structure Reading where
  result : Except ReadError Bytes
  meanwhile : Meanwhile

inductive Event where
  | read (meanwhile : Meanwhile)
  /-- The loop rests. -/
  | rest
  /-- The event enters the summary. -/
  | count (mapFull : Bool)
  | flush
  | forward (r : RawRecord)
  /-- A record is lost, since nobody receives it. -/
  | refuse (r : RawRecord)
  | log (line : Log.Line)
deriving DecidableEq

def sourceClosed : Event := .log ⟨.debug, "ring buffer closed, exiting trace loop"⟩

def receiverGone : Event := .log ⟨.debug, "flow cache gone, exiting trace loop"⟩

def cancelled : Event := .log ⟨.debug, "exiting trace loop due to cancellation"⟩

/-- What happens to a decoded record before it is sent. Events are counted for the sake of a
`debug` line, so they are only counted if the log is set to show such lines. -/
def announce (level : Log.Level) (r : RawRecord) : List Event :=
  (if Log.Level.debug.isLoggedAt level then [.count r.metrics.mapFull] else [])
    ++ if r.metrics.mapFull then [.flush] else []

/-- Runs the loop over the readings, with the log set to `level`; after them the source is
closed. -/
def run (level : Log.Level) (isCancelled isReceived : Bool) (readings : List Reading) :
    List Event :=
  if isCancelled then [cancelled]
  else
    match readings with
    | [] => [.read .nothing, sourceClosed]
    | ⟨result, meanwhile⟩ :: later =>
      let isCancelled := meanwhile.isCancelled
      let isReceived := isReceived && !meanwhile.isAbandoned
      .read meanwhile ::
        match receive result with
        | .closed => [sourceClosed]
        | .failed line => .rest :: .log line :: run level isCancelled isReceived later
        | .malformed line => .log line :: run level isCancelled isReceived later
        | .record r =>
          announce level r ++
            if isReceived then .forward r :: run level isCancelled isReceived later
            else [.refuse r, receiverGone]

/-! ## What a run amounts to -/

namespace Event

/-- The records that were forwarded. -/
def forwarded (run : List Event) : List RawRecord :=
  run.filterMap fun
    | .forward r => some r
    | _ => none

/-- How many times the source was read. -/
def readings (run : List Event) : Nat :=
  run.countP fun
    | .read _ => true
    | _ => false

/-- The lines logged at `level` and more urgent ones. -/
def logged (level : Log.Level) (run : List Event) : List Log.Line :=
  run.filterMap fun
    | .log line => if line.level.isLoggedAt level then some line else none
    | _ => none

/-- For each flush, how many forwarded records wait for the cache at that time. -/
def queuedAtFlush (queued : Nat) : List Event → List Nat
  | [] => []
  | .read meanwhile :: later => queuedAtFlush (if meanwhile.isAbandoned then 0 else queued) later
  | .forward _ :: later => queuedAtFlush (queued + 1) later
  | .flush :: later => queued :: queuedAtFlush queued later
  | _ :: later => queuedAtFlush queued later

/-- The summaries that are logged during the run, and the counters after it, if
the counters were `w` before it. Of the time that passes only rests count: a
window that has at most a rest left of its `timeout` ends with the rest. -/
def summaries (timeout : Nat) (w : Window) (left : Nat) : List Event → List Summary × Window
  | [] => ([], w)
  | .count mapFull :: later =>
    let (begins, w) := w.record mapFull
    summaries timeout w (if begins then timeout else left) later
  | .rest :: later =>
    if w.active && left ≤ restNanos then
      let (summary, w) := w.report
      let (more, w) := summaries timeout w 0 later
      (summary :: more, w)
    else summaries timeout w (left - restNanos) later
  | _ :: later => summaries timeout w left later

end Event

end Flowmeter.Intake
