-- SUMMARY: The actions of the stages, each with the states in which it can happen and its outcome.
import Flowmeter.Pipeline.State

/-!
# Actions

An action is one indivisible thing that a stage does. It has no outcome in a
state in which it cannot happen. Which of several possible actions happens
first is left open; a run of the pipeline is any sequence of them, with the
acts of the outside world in between.
-/

namespace Flowmeter.Pipeline

/-! ## Sending -/

/-- A stage sends what it holds once there is room in the channel. -/
def sendHeld {α : Type} (phase : Phase α) (c : Channel α) (accepted : Channel α → Pipeline)
    (refused : Pipeline) : Option Pipeline :=
  match phase with
  | .holding item | .parting item =>
    match c.send item with
    | .accepted c => some (accepted c)
    | .full => none
    | .refused => some refused
  | _ => none

/-! ## Intake -/

/-- The intake reads the next event. A full probe map has everybody flush, and
after a reading that failed the intake rests. -/
def read (p : Pipeline) : Option Pipeline :=
  match p.intake, p.isResting with
  | .ready, false =>
    match p.source with
    | [] => if p.sourceClosed then some (p.stop .intake .finished) else none
    | result :: source =>
      let p := { p with source }
      match Intake.receive result with
      | .closed => some (p.stop .intake .finished)
      | .failed _ => some { p with restsUntil := p.now + Intake.restNanos }
      | .malformed _ => some p
      | .record r =>
        let p := { p with intake := .holding r }
        some <|
          if r.metrics.mapFull then
            { p with flushes := p.flushes + 1, flushRequested := true }
          else p
  | _, _ => none

def sendRaw (p : Pipeline) : Option Pipeline :=
  sendHeld p.intake p.raw (fun raw => { p with intake := .ready, raw }) (p.stop .intake .finished)

/-! ## Cache -/

/-- The cache passes a batch on unless it is empty. -/
def evict (p : Pipeline) (batch : Batch) : Pipeline :=
  if batch.isEmpty then p else { p with caching := .holding batch }

/-- The cache starts its timer, which needs a positive period and an instant one period ahead. -/
def startTimer (p : Pipeline) : Option Pipeline :=
  match p.caching, p.nextTick with
  | .ready, none =>
    if p.cache.timeout = .zero then some (p.stop .cache .failed)
    else
      match Instant.add p.now p.cache.timeout with
      | .ok due => some { p with nextTick := some due }
      | .error _ => some (p.stop .cache .failed)
  | _, _ => none

def insert (p : Pipeline) : Option Pipeline :=
  match p.caching, p.nextTick, p.raw.receive? with
  | .ready, some _, some (r, raw) =>
    let now := p.now + p.pace
    let (evicted, cache) := p.cache.insert r now
    some ({ p with raw, cache, now }.evict evicted.toList)
  | _, _, _ => none

/-- Takes all due ticks at once if no flow would be expired at them. This is a shortcut: as many
of `tick`, one after the other, lead to the same state. -/
def skipTicks (p : Pipeline) : Option Pipeline :=
  match p.caching, p.nextTick, p.cache.expire p.now with
  | .ready, some due, .ok ([], _) =>
    if p.now < due then none
    else
      let period := p.cache.timeout.nanos
      some { p with nextTick := some (due + ((p.now - due) / period + 1) * period) }
  | _, _, _ => none

/-- A tick that is due. The next one stays on the grid, however late this one is. -/
def tick (p : Pipeline) : Option Pipeline :=
  match p.caching, p.nextTick with
  | .ready, some due =>
    if p.now < due then none
    else
      match p.cache.expire p.now with
      | .ok (batch, cache) =>
        some ({ p with cache, nextTick := some (due + cache.timeout.nanos) }.evict batch)
      | .error _ => some (p.stop .cache .failed)
  | _, _ => none

def flush (p : Pipeline) : Option Pipeline :=
  match p.caching, p.nextTick, p.flushRequested with
  | .ready, some _, true =>
    let (batch, cache) := p.cache.drain
    some ({ p with cache, flushRequested := false }.evict batch)
  | _, _, _ => none

/-- When no more records can come, the cache sends what it has left and finishes. -/
def drain (p : Pipeline) : Option Pipeline :=
  match p.caching, p.nextTick with
  | .ready, some _ =>
    if p.raw.isExhausted then
      let (batch, cache) := p.cache.drain
      let p := { p with cache }
      some (if batch.isEmpty then p.stop .cache .finished else { p with caching := .parting batch })
    else none
  | _, _ => none

def sendEvicted (p : Pipeline) : Option Pipeline :=
  match p.caching with
  | .holding batch =>
    match p.evicted.send batch with
    | .accepted evicted => some { p with caching := .ready, evicted }
    | .full => none
    | .refused => some (p.stop .cache .finished)
  | .parting batch =>
    match p.evicted.send batch with
    | .accepted evicted => some ({ p with evicted }.stop .cache .finished)
    | .full => none
    | .refused => some (p.stop .cache .finished)
  | _ => none

/-! ## Deduper -/

/-- The deduper judges a batch, and passes on what is left of it unless that is nothing. -/
def dedup (p : Pipeline) : Option Pipeline :=
  match p.deduping, p.evicted.receive? with
  | .ready, some (batch, evicted) =>
    let p := { p with evicted, now := p.now + p.pace }
    match p.deduper.dedup batch p.now with
    | .ok (batch, deduper) =>
      some { p with deduper, deduping := if batch.isEmpty then .ready else .holding batch }
    | .error _ => some (p.stop .deduper .failed)
  | .ready, none => if p.evicted.closed then some (p.stop .deduper .finished) else none
  | _, _ => none

def sendDeduped (p : Pipeline) : Option Pipeline :=
  sendHeld p.deduping p.deduped (fun deduped => { p with deduping := .ready, deduped })
    (p.stop .deduper .finished)

/-! ## Decorator -/

def decorate (p : Pipeline) : Option Pipeline :=
  match p.decorating, p.deduped.receive? with
  | .ready, some (batch, deduped) =>
    some { p with deduped, decorating := .holding (p.decorator.decorateAll batch) }
  | .ready, none => if p.deduped.closed then some (p.stop .decorator .finished) else none
  | _, _ => none

def sendDecorated (p : Pipeline) : Option Pipeline :=
  sendHeld p.decorating p.decorated (fun decorated => { p with decorating := .ready, decorated })
    (p.stop .decorator .finished)

/-! ## Export -/

/-- The exporter takes a batch, or fails at it. -/
def «export» (p : Pipeline) : Option Pipeline :=
  match p.exporting, p.decorated.receive? with
  | .ready, some (batch, decorated) =>
    let p := { p with decorated }
    if p.exporter.failsAt = some p.exporter.batches.length then some (p.stop .export .failed)
    else
      let batches := p.exporter.batches ++ [batch]
      some { p with exporter := { p.exporter with batches } }
  | .ready, none => if p.decorated.closed then some (p.stop .export .finished) else none
  | _, _ => none

/-! ## Cancellation -/

/-- A stage notices that the pipeline is cancelled. Unlike the other stages, the
intake notices it only between two events, and not while it rests. -/
def quit (stage : Stage) (p : Pipeline) : Option Pipeline :=
  if p.cancelled && (p.ending? stage).isNone then
    match stage, p.intake, p.isResting with
    | .intake, .ready, false => some (p.stop .intake .finished)
    | .intake, _, _ => none
    | _, _, _ => some (p.stop stage .finished)
  else none

/-! ## All actions -/

inductive Action where
  | quit (stage : Stage)
  | read
  | sendRaw
  | startTimer
  | insert
  | skipTicks
  | tick
  | flush
  | drain
  | sendEvicted
  | dedup
  | sendDeduped
  | decorate
  | sendDecorated
  | «export»
deriving DecidableEq

namespace Action

/-- The state after the action, if it can happen. -/
def apply (p : Pipeline) : Action → Option Pipeline
  | .quit stage => p.quit stage
  | .read => p.read
  | .sendRaw => p.sendRaw
  | .startTimer => p.startTimer
  | .insert => p.insert
  | .skipTicks => p.skipTicks
  | .tick => p.tick
  | .flush => p.flush
  | .drain => p.drain
  | .sendEvicted => p.sendEvicted
  | .dedup => p.dedup
  | .sendDeduped => p.sendDeduped
  | .decorate => p.decorate
  | .sendDecorated => p.sendDecorated
  | .export => p.export

/-- Every action, the stages in the order of the pipeline. -/
def all : List Action :=
  [.quit .intake, .quit .cache, .quit .deduper, .quit .decorator, .quit .export,
    .read, .sendRaw,
    .startTimer, .sendEvicted, .insert, .skipTicks, .tick, .flush, .drain,
    .dedup, .sendDeduped,
    .decorate, .sendDecorated,
    .export]

end Action

end Flowmeter.Pipeline
