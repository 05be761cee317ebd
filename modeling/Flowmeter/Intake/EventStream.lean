-- SUMMARY: Cutting a stream of bytes that arrives in pieces into events of one size.
import Flowmeter.Flow.Wire

/-!
# Event streams

Events lie back to back in a file or pipe, all of one size. The reader below
delivers bytes in pieces of its own choosing, reports that nothing is there
yet, fails, or is told meanwhile that the stream is closed. Reading an event
collects pieces until the event is complete; what a piece holds beyond that
stays for the next event.

The end of the data closes the stream, and a part of an event before it is
lost. So are the bytes collected so far when the reader fails.
-/

namespace Flowmeter.Intake

/-! ## Failures -/

/-- The kinds of failure that reading tells apart. -/
inductive FailureKind where
  | wouldBlock
  | interrupted
  | unexpectedEof
  | other
deriving DecidableEq

structure Failure where
  kind : FailureKind
  message : String
deriving DecidableEq

/-- Why no event was read. -/
inductive ReadError where
  | closed
  | failed (failure : Failure)
deriving DecidableEq

namespace ReadError

/-- Data that ends too early closes the stream. -/
def ofFailure (f : Failure) : ReadError := if f.kind = .unexpectedEof then .closed else .failed f

def message : ReadError → String
  | .closed => "source closed"
  | .failed f => "reading source: " ++ f.message

end ReadError

/-! ## Streams -/

/-- What the reader has to say next. -/
inductive Delivery where
  /-- Bytes; none of them is the end of the data. -/
  | bytes (piece : Bytes)
  | failure (failure : Failure)
  /-- Somebody closes the stream. -/
  | close
deriving DecidableEq

structure EventStream where
  deliveries : List Delivery
  /-- What every reading beyond the deliveries fails with, if it is not the end of the data. -/
  ending : Option Failure
  closed : Bool
deriving DecidableEq

namespace EventStream

/-- A stream over data that is all there. -/
def ofBytes (content : Bytes) : EventStream :=
  { deliveries := [.bytes content], ending := none, closed := false }

/-- A stream that cannot be read. -/
def unreadable (failure : Failure) : EventStream :=
  { deliveries := [], ending := some failure, closed := false }

/-- Adds to what will be delivered. -/
def deliver (s : EventStream) (d : Delivery) : EventStream :=
  { s with deliveries := s.deliveries ++ [d] }

def close (s : EventStream) : EventStream := { s with closed := true }

/-- Completes an event of which `event` is there already. -/
def collect (ending : Option Failure) :
    List Delivery → Bool → Bytes → Except ReadError Bytes × EventStream
  | deliveries, true, _ => (.error .closed, ⟨deliveries, ending, true⟩)
  | [], false, _ =>
    match ending with
    | none => (.error .closed, ⟨[], ending, false⟩)
    | some f => (.error (.ofFailure f), ⟨[], ending, false⟩)
  | .close :: later, false, event => collect ending later true event
  | .failure f :: later, false, event =>
    match f.kind with
    | .wouldBlock | .interrupted => collect ending later false event
    | .unexpectedEof | .other => (.error (.ofFailure f), ⟨later, ending, false⟩)
  | .bytes piece :: later, false, event =>
    let missing := RawRecord.wireSize - event.length
    if piece = [] then (.error .closed, ⟨later, ending, false⟩)
    else if piece.length < missing then collect ending later false (event ++ piece)
    else
      let rest := piece.drop missing
      (.ok (event ++ piece.take missing),
        ⟨if rest = [] then later else .bytes rest :: later, ending, false⟩)

/-- Reads the next event. -/
def read (s : EventStream) : Except ReadError Bytes × EventStream :=
  collect s.ending s.deliveries s.closed []

/-- The events up to the first failed reading, at most `count` of them. -/
def readUpTo : Nat → EventStream → List Bytes
  | 0, _ => []
  | count + 1, s =>
    match s.read with
    | (.ok event, s) => event :: readUpTo count s
    | (.error _, _) => []

end EventStream

/-- The events of data that is all there. -/
def eventsOf (content : Bytes) : List Bytes :=
  (EventStream.ofBytes content).readUpTo (content.length / RawRecord.wireSize)

end Flowmeter.Intake
