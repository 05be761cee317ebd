-- SUMMARY: The state of the pipeline: five stages, the four channels between them, the clock and the outside world.
import Flowmeter.Decorate
import Flowmeter.Dedup
import Flowmeter.Cache
import Flowmeter.Intake.Loop
import Flowmeter.Pipeline.Channel

/-!
# Pipeline

The intake reads events and sends raw records to the cache. Batches of evicted
records go through the deduper and the decorator to the export stage. The
stages run side by side and are joined by channels; each holds at most one
item that it could not send yet.
-/

namespace Flowmeter

inductive Stage where
  | intake
  | cache
  | deduper
  | decorator
  | export
deriving DecidableEq

def Stage.name : Stage → String
  | .intake => "intake"
  | .cache => "cache"
  | .deduper => "deduper"
  | .decorator => "decorator"
  | .export => "export"

/-- How a stage came to its end. -/
inductive Ending where
  | finished
  | failed
deriving DecidableEq

/-- What a stage is at, where `α` is what it sends. -/
inductive Phase (α : Type) where
  /-- It waits for something to do. -/
  | ready
  /-- It waits until `item` can be sent. -/
  | holding (item : α)
  /-- It waits until `item` can be sent, and finishes then. -/
  | parting (item : α)
  | ended (ending : Ending)
deriving DecidableEq

/-- What the export stage hands its batches to. -/
structure Exporter where
  /-- The batches it has taken, in order. -/
  batches : List Batch
  /-- The number of the batch at which it fails. -/
  failsAt : Option Nat

structure Pipeline where
  now : Instant
  /-- How far the clock moves on before a stage that looks at it takes in an item. -/
  pace : Nat
  cancelled : Bool
  /-- Results of the readings to come. -/
  source : List (Except Intake.ReadError Bytes)
  /-- Whether the source is closed behind those. Otherwise a reading waits. -/
  sourceClosed : Bool
  intake : Phase RawRecord
  /-- The intake reads nothing before this instant. -/
  restsUntil : Instant
  /-- How many flushes the intake has asked for. -/
  flushes : Nat
  raw : Channel RawRecord
  cache : Cache
  caching : Phase Batch
  /-- A flush that the cache has not seen to yet. -/
  flushRequested : Bool
  /-- When the cache looks for expired flows next, once its timer runs. -/
  nextTick : Option Instant
  evicted : Channel Batch
  deduper : Deduper
  deduping : Phase Batch
  deduped : Channel Batch
  decorator : Decorator
  decorating : Phase Batch
  decorated : Channel Batch
  exporting : Phase Batch
  exporter : Exporter
  /-- The stages that have come to an end, in that order. -/
  endings : List (Stage × Ending)

/-- How a pipeline is set up. -/
structure Pipeline.Setup where
  cache : Cache
  deduper : Deduper
  decorator : Decorator
  rawCapacity : Nat
  batchCapacity : Nat
  pace : Nat
  exporterFailsAt : Option Nat
  /-- The stages that run. The others are left to whoever tests a part of the pipeline. -/
  stages : List Stage

/-- Checks that the channels can be made. -/
def Pipeline.Setup.checkChannels (setup : Setup) : Except Channel.CapacityError Unit := do
  Channel.checkCapacity setup.rawCapacity
  Channel.checkCapacity setup.batchCapacity

namespace Pipeline

def start (setup : Setup) (now : Instant) : Pipeline :=
  let phase {α : Type} (stage : Stage) : Phase α :=
    if stage ∈ setup.stages then .ready else .ended .finished
  { now
    pace := setup.pace
    cancelled := false
    source := []
    sourceClosed := false
    intake := phase .intake
    restsUntil := now
    flushes := 0
    raw := .empty setup.rawCapacity
    cache := setup.cache
    caching := phase .cache
    flushRequested := false
    nextTick := none
    evicted := .empty setup.batchCapacity
    deduper := setup.deduper
    deduping := phase .deduper
    deduped := .empty setup.batchCapacity
    decorator := setup.decorator
    decorating := phase .decorator
    decorated := .empty setup.batchCapacity
    exporting := phase .export
    exporter := { batches := [], failsAt := setup.exporterFailsAt }
    endings := [] }

/-- Whether the intake rests after a reading that failed. -/
def isResting (p : Pipeline) : Bool := p.now < p.restsUntil

/-- How a stage has ended, if it has. -/
def ending? (p : Pipeline) (stage : Stage) : Option Ending :=
  let ending {α : Type} : Phase α → Option Ending
    | .ended e => some e
    | .ready | .holding _ | .parting _ => none
  match stage with
  | .intake => ending p.intake
  | .cache => ending p.caching
  | .deduper => ending p.deduping
  | .decorator => ending p.decorating
  | .export => ending p.exporting

/-- A stage comes to its end, and with it its ends of the channels. -/
def stop (p : Pipeline) (stage : Stage) (ending : Ending) : Pipeline :=
  let p := { p with endings := p.endings ++ [(stage, ending)] }
  match stage with
  | .intake => { p with intake := .ended ending, raw := p.raw.close }
  | .cache => { p with caching := .ended ending, raw := p.raw.drop, evicted := p.evicted.close }
  | .deduper =>
    { p with deduping := .ended ending, evicted := p.evicted.drop, deduped := p.deduped.close }
  | .decorator =>
    { p with
      decorating := .ended ending, deduped := p.deduped.drop, decorated := p.decorated.close }
  | .export => { p with exporting := .ended ending, decorated := p.decorated.drop }

end Pipeline

end Flowmeter
