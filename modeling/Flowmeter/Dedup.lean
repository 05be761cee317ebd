-- SUMMARY: The deduper, which lets one interface own each logical flow and marks or drops the rest.
import Flowmeter.Flow.Record
import Flowmeter.Log

/-!
# Deduplication

A flow that crosses several interfaces is reported once for each. The first
interface to report a logical flow owns it until its ownership expires, and
each record of the owner extends the ownership. Records of other interfaces
are duplicates meanwhile; they are dropped, or marked and passed on.

The memory lists the owned flows from the least to the most recently extended
one. Before a batch, expired ownerships are forgotten from the old end up to
the first that is still valid.
-/

namespace Flowmeter

namespace Dedup

inductive Kind where
  | none
  | firstCome
deriving DecidableEq

/-- What becomes of a duplicate. -/
inductive Mode where
  | drop
  | mark
deriving DecidableEq

def Mode.ofJustMark (justMark : Bool) : Mode := if justMark then .mark else .drop

def Kind.ofText? : String → Option Kind
  | "none" => some .none
  | "first-come" => some .firstCome
  | _ => Option.none

/-- Who owns a logical flow, and until when. -/
structure Owner where
  ifIndex : UInt32
  expiry : Instant
deriving DecidableEq

/-- The owners of logical flows, the least recently extended first. -/
abbrev Memory := List (FlowId × Owner)

namespace Memory

/-- Forgets expired owners from the old end up to the first valid one. -/
def expire (m : Memory) (now : Instant) : Memory := m.dropWhile fun flow => flow.2.expiry ≤ now

/-- Makes `owner` the owner of `flow` and the most recent. -/
def put (m : Memory) (flow : FlowId) (owner : Owner) : Memory :=
  m.filter (·.1 ≠ flow) ++ [(flow, owner)]

/-- Whether at `now` another interface than that of `id` owns the flow. -/
def ownedElsewhere (m : Memory) (id : FlowId) (now : Instant) : Bool :=
  match m.lookup id.logical with
  | some owner => now < owner.expiry && owner.ifIndex ≠ id.ifIndex
  | none => false

end Memory

/-- A record and whether it is a duplicate. -/
structure Judgement where
  record : Record
  isDuplicate : Bool
deriving DecidableEq

/-- What a judged record contributes to the batch that is passed on. -/
def Judgement.output (mode : Mode) (j : Judgement) : Batch :=
  if j.isDuplicate then
    match mode with
    | .mark => [{ j.record with duplicate := true }]
    | .drop => []
  else [j.record]

/-- The trace line of a record that is dropped. -/
def Judgement.trace? (mode : Mode) (j : Judgement) : Option Log.Line :=
  if j.isDuplicate ∧ mode = .drop then
    some ⟨.trace, "dropping duplicate " ++ j.record.id.text⟩
  else Option.none

end Dedup

open Dedup in
structure Deduper where
  kind : Kind
  mode : Mode
  /-- How long an ownership lasts after it is gained or extended. -/
  expiry : Duration
  memory : Memory

namespace Deduper

open Dedup

def empty (kind : Kind) (mode : Mode) (expiry : Duration) : Deduper :=
  { kind, mode, expiry, memory := [] }

/-- How many logical flows are remembered. -/
def size (d : Deduper) : Nat := d.memory.length

/-- Judges one record: whether it is a duplicate, and the memory afterwards.
A duplicate leaves the memory alone; any other record gains or extends the
ownership of its flow. -/
def judge (d : Deduper) (id : FlowId) (now : Instant) : Except TimeOverflow (Bool × Deduper) :=
  if d.memory.ownedElsewhere id now then .ok (true, d)
  else do
    let expiry ← Instant.add now d.expiry
    return (false, { d with memory := d.memory.put id.logical ⟨id.ifIndex, expiry⟩ })

/-- Judges the records of a batch in turn. -/
def judgeEach : Deduper → Batch → Instant → Except TimeOverflow (List Judgement × Deduper)
  | d, [], _ => .ok ([], d)
  | d, r :: rest, now => do
    let (isDuplicate, d) ← d.judge r.id now
    let (later, d) ← judgeEach d rest now
    return (⟨r, isDuplicate⟩ :: later, d)

/-- Judges a batch, after the expired owners are forgotten. -/
def judgeBatch (d : Deduper) (batch : Batch) (now : Instant) :
    Except TimeOverflow (List Judgement × Deduper) :=
  match d.kind with
  | .none => .ok (batch.map fun r => ⟨r, false⟩, d)
  | .firstCome => judgeEach { d with memory := d.memory.expire now } batch now

/-- Passes on a batch without its duplicates, or with them marked. -/
def dedup (d : Deduper) (batch : Batch) (now : Instant) : Except TimeOverflow (Batch × Deduper) := do
  let (judged, d) ← d.judgeBatch batch now
  return (judged.flatMap (Judgement.output d.mode), d)

end Deduper

end Flowmeter
