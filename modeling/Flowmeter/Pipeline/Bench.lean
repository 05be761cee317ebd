-- SUMMARY: A bench on which one stage, or all stages behind the intake, run under the hands of an operator.
import Flowmeter.Pipeline.Settle

/-!
# Bench

On the bench an operator feeds one stage, or the stages behind the intake wired
together, and takes away what comes out. Between two commands the stages act
until nothing is left to do, and batches that come out make room for more,
unless the operator asks for them one by one. What is exported cannot be asked
for: the exporter has it.

The clock may jump over any number of ticks. The operator does not wait for all
of very many, so some may still be due at the next command.
-/

namespace Flowmeter.Pipeline

namespace Bench

/-- What stands on the bench. -/
inductive Fixture where
  | only (stage : Stage)
  /-- All stages behind the intake. -/
  | wired
deriving DecidableEq

def Fixture.stages : Fixture → List Stage
  | .only stage => [stage]
  | .wired => [.cache, .deduper, .decorator, .export]

/-- Whether the output ends with the exporter, so that nobody has to take it. -/
def Fixture.exports : Fixture → Bool
  | .only .export | .wired => true
  | .only _ => false

inductive Command where
  /-- Sends raw records, which only the cache takes. -/
  | sendRecords (records : List RawRecord)
  /-- Sends a batch to a stage behind the cache, if it stands alone. -/
  | sendBatch (batch : Batch)
  | advance (nanos : Nat)
  /-- Asks for a flush so many times, which comes to one flush at most. -/
  | flush (times : Nat)
  /-- The input ends. -/
  | close
  | cancel
  /-- Nobody takes the output any more. -/
  | dropOutput
  /-- Takes one batch from the output. -/
  | receive

end Bench

open Bench in
structure Bench where
  fixture : Fixture
  pipeline : Pipeline
  /-- Batches leave only when the operator asks for one. -/
  hold : Bool
  /-- How many exported batches were taken away. -/
  taken : Nat

namespace Bench

/-- The batches in the output. -/
def output (b : Bench) : List Batch :=
  match b.fixture with
  | .only .cache => b.pipeline.evicted.queue
  | .only .deduper => b.pipeline.deduped.queue
  | .only .decorator => b.pipeline.decorated.queue
  | .only .export | .wired => b.pipeline.exporter.batches.drop b.taken
  | .only .intake => []

/-- Takes the first `count` batches from the output. -/
def take (b : Bench) (count : Nat) : Bench :=
  let p := b.pipeline
  let shorten (c : Channel Batch) : Channel Batch := { c with queue := c.queue.drop count }
  match b.fixture with
  | .only .cache => { b with pipeline := { p with evicted := shorten p.evicted } }
  | .only .deduper => { b with pipeline := { p with deduped := shorten p.deduped } }
  | .only .decorator => { b with pipeline := { p with decorated := shorten p.decorated } }
  | .only .export | .wired => { b with taken := b.taken + count }
  | .only .intake => b

/-- How many ticks the operator waits for between two commands. -/
def patience : Nat := 100000

def settle (b : Bench) : Bench :=
  let p := b.pipeline.settle
  match b.pipeline.nextTick, p.nextTick with
  | some due, some next =>
    let reached := due + patience * p.cache.timeout.nanos
    { b with pipeline := { p with nextTick := some (min next reached) } }
  | _, _ => { b with pipeline := p }

/-- Acts and takes output away by turns, as long as there is any, at most `rounds` times. -/
def collect : Nat → Bench → List Batch × Bench
  | 0, b => ([], b)
  | rounds + 1, b =>
    let b := b.settle
    match b.output with
    | [] => ([], b)
    | batches =>
      let (later, b) := collect rounds (b.take batches.length)
      (batches ++ later, b)

/-- What a command puts in, and which items of it were accepted. -/
def put (b : Bench) : Command → List Bool × Bench
  | .sendRecords records =>
    let p := b.pipeline
    match b.fixture with
    | .only .cache | .wired =>
      let (accepted, raw) := p.raw.sendAll records
      (accepted, { b with pipeline := { p with raw } })
    | .only _ => (records.map fun _ => false, b)
  | .sendBatch batch =>
    let p := b.pipeline
    match b.fixture with
    | .only .deduper =>
      let (accepted, evicted) := p.evicted.sendAll [batch]
      (accepted, { b with pipeline := { p with evicted } })
    | .only .decorator =>
      let (accepted, deduped) := p.deduped.sendAll [batch]
      (accepted, { b with pipeline := { p with deduped } })
    | .only .export =>
      let (accepted, decorated) := p.decorated.sendAll [batch]
      (accepted, { b with pipeline := { p with decorated } })
    | .only .cache | .only .intake | .wired => ([false], b)
  | .advance nanos => ([], { b with pipeline := { b.pipeline with now := b.pipeline.now + nanos } })
  | .flush times =>
    let p := b.pipeline
    ([], { b with pipeline := { p with flushRequested := p.flushRequested || times ≠ 0 } })
  | .close =>
    let p := b.pipeline
    let p :=
      match b.fixture with
      | .only .cache | .wired => { p with raw := p.raw.close }
      | .only .deduper => { p with evicted := p.evicted.close }
      | .only .decorator => { p with deduped := p.deduped.close }
      | .only .export => { p with decorated := p.decorated.close }
      | .only .intake => { p with sourceClosed := true }
    ([], { b with pipeline := p })
  | .cancel => ([], { b with pipeline := { b.pipeline with cancelled := true } })
  | .dropOutput =>
    let p := b.pipeline
    let p :=
      match b.fixture with
      | .only .cache => { p with evicted := p.evicted.drop }
      | .only .deduper => { p with deduped := p.deduped.drop }
      | .only .decorator => { p with decorated := p.decorated.drop }
      | .only .intake => { p with raw := p.raw.drop }
      | .only .export | .wired => p
    ([], { b with pipeline := p })
  | .receive => ([], b)

/-- What an operator sees after a command. -/
structure Report where
  /-- The batches that came out, in order. -/
  batches : List Batch
  stages : List (Stage × Option Ending)
  /-- For each item that was sent, whether it was accepted. -/
  accepted : List Bool

def stages (b : Bench) : List (Stage × Option Ending) :=
  b.fixture.stages.map fun stage => (stage, b.pipeline.ending? stage)

def run (b : Bench) (command : Command) : Report × Bench :=
  let (accepted, b) := b.put command
  let (batches, b) :=
    if b.hold then
      let b := b.settle
      match command, b.fixture.exports with
      | .receive, false => (b.output.take 1, (b.take 1).settle)
      | _, _ => ([], b)
    else collect (b.pipeline.work + 1) b
  ({ batches, stages := b.stages, accepted }, b)

/-- Runs commands one after the other. -/
def runAll : Bench → List Command → List Report
  | _, [] => []
  | b, command :: commands =>
    let (report, b) := b.run command
    report :: runAll b commands

/-- A bench on which the stages have settled. -/
def ofSetup (fixture : Fixture) (hold : Bool) (setup : Pipeline.Setup) :
    Except Channel.CapacityError Bench := do
  setup.checkChannels
  return {
    fixture
    pipeline := (Pipeline.start { setup with stages := fixture.stages } 0).settle
    hold
    taken := 0 }

end Bench

end Flowmeter.Pipeline
