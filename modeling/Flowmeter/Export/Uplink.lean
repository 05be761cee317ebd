-- SUMMARY: The uplink, which queues batches and ships them as frames over one connection after the other.
import Flowmeter.Export.Frame
import Flowmeter.Log
import Flowmeter.Pipeline.Channel

/-!
# Uplink

Batches for the network wait in a queue of bounded length. Whoever exports a
batch never waits: a batch that finds the queue full is dropped. The other
side of the queue takes the batches in order while it is connected. A batch
whose frame cannot be sent is lost, and so is the connection; the uplink then
connects again.
-/

namespace Flowmeter.Export

/-- What the sending side is at. -/
inductive Sending where
  | disconnected
  | connected
  /-- A batch was taken from the queue and is on its way. -/
  | sending (batch : Batch)
  | stopped

structure Uplink where
  queue : Channel Batch
  sending : Sending

namespace Uplink

/-- How many batches may wait. -/
def capacity : Nat := 1024

def empty : Uplink := { queue := .empty capacity, sending := .disconnected }

/-! ## Exporting -/

def dropping (reason : String) (batch : Batch) : Log.Line :=
  ⟨.warn, reason ++ ", dropping " ++ Text.decimal batch.length ++ " flows"⟩

/-- Puts a batch into the queue, or drops it with a warning. -/
def submit (u : Uplink) (batch : Batch) : Option Log.Line × Uplink :=
  match u.queue.send batch with
  | .accepted queue => (none, { u with queue })
  | .full => (some (dropping "export queue full" batch), u)
  | .refused => (some (dropping "exporter stopped" batch), u)

def submitAll (u : Uplink) : List Batch → List Log.Line × Uplink
  | [] => ([], u)
  | batch :: batches =>
    let (line, u) := u.submit batch
    let (lines, u) := u.submitAll batches
    (line.toList ++ lines, u)

/-- Nobody exports any more. -/
def close (u : Uplink) : Uplink := { u with queue := u.queue.close }

/-- The sending side is gone, with all that waits for it. -/
def abandon (u : Uplink) : Uplink := { queue := u.queue.drop, sending := .stopped }

/-! ## Sending -/

def connect (u : Uplink) : Option Uplink :=
  match u.sending with
  | .disconnected => some { u with sending := .connected }
  | _ => none

/-- Takes the next batch while there is a connection, or stops when none can come. -/
def take (u : Uplink) : Option Uplink :=
  match u.sending, u.queue.receive? with
  | .connected, some (batch, queue) => some { queue, sending := .sending batch }
  | .connected, none => if u.queue.closed then some { u with sending := .stopped } else none
  | _, _ => none

/-- The batch on its way has been sent, or has failed together with its connection. -/
def finish (u : Uplink) (sent : Bool) : Option Uplink :=
  match u.sending with
  | .sending _ => some { u with sending := if sent then .connected else .disconnected }
  | _ => none

/-! ## Running against a peer -/

inductive Event where
  | connected
  | refused (line : Log.Line)
  | wrote (bytes : Bytes)
  | failed (line : Log.Line)

def writeError (e : FrameError) : Log.Line := ⟨.warn, "write error: " ++ e.message⟩

/-- Sends what is queued to a peer that reads everything and never leaves. -/
def dispatch : Nat → Uplink → List Event
  | 0, _ => []
  | steps + 1, u =>
    match u.sending with
    | .stopped => []
    | .disconnected =>
      match u.connect with
      | some u => .connected :: dispatch steps u
      | none => []
    | .connected =>
      match u.take with
      | some u => dispatch steps u
      | none => []
    | .sending batch =>
      match frame batch with
      | .ok bytes =>
        match u.finish true with
        | some u => .wrote bytes :: dispatch steps u
        | none => []
      | .error e =>
        match u.finish false with
        | some u => .failed (writeError e) :: dispatch steps u
        | none => []

/-- A connection, an end, and three steps at most for every batch. -/
def steps (u : Uplink) : Nat := 3 * u.queue.queue.length + 3

/-- Attempts to connect that the peer refuses, before it takes a connection. -/
def refusals (address cause : String) (count : Nat) : List Event :=
  List.replicate count <|
    .refused ⟨.warn, "connection to " ++ address ++ " failed: " ++ cause⟩

namespace Event

def lines (events : List Event) : List Log.Line :=
  events.filterMap fun
    | .refused line | .failed line => some line
    | .connected | .wrote _ => none

/-- The bytes that went over each connection. -/
def connections : List Event → List Bytes
  | [] => []
  | .connected :: later => written later :: connections later
  | _ :: later => connections later
where
  /-- The bytes written before the next connection. -/
  written : List Event → Bytes
    | [] => []
    | .connected :: _ => []
    | .wrote bytes :: later => bytes ++ written later
    | _ :: later => written later

end Event

end Uplink

end Flowmeter.Export
