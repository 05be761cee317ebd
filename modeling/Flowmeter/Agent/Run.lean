-- SUMMARY: The agent: checking its settings, building its pipeline and running it to its end.
import Flowmeter.Agent.Supervision
import Flowmeter.Pipeline.Waiting

/-!
# Agent

An agent is made from settings that pass validation and from the address it
reports. Its run builds the pipeline and supervises it. The run described here
is as short as can be: the events are all there at once. Still a stage needs a
microsecond for what it takes in, so that no two flows are created together and
no two batches are judged together; and the intake rests after each reading
that failed, while flows in the cache and the deduper grow old.

A buffer length for which there is no channel passes validation. It breaks the
run off before any stage has started, and then there is no outcome. So does an
active timeout that cannot be doubled, but it does not get past validation.
-/

namespace Flowmeter

/-- What breaks a computation off, so that it has no result. -/
inductive Fault where
  | time (cause : TimeOverflow)
  | channel (cause : Channel.CapacityError)
deriving DecidableEq

def Fault.message : Fault → String
  | .time cause => cause.message
  | .channel cause => cause.message

structure Agent where
  config : Config
  /-- The address it reports. -/
  ip : IpAddr

namespace Agent

/-- Checks the settings and settles the agent's address. -/
def create (config : Config) (links : List Link) :
    Except TimeOverflow (Except ConfigError Agent) := do
  let valid ← config.validate
  return do
    valid
    let ip ← config.resolveAgentIp links
    return { config, ip }

/-- How long a stage that looks at the clock needs for an item, in nanoseconds. -/
def pace : Nat := 1000

/-- How long the stages have to finish once the source is closed, in nanoseconds. -/
def graceNanos : Nat := 5000000000

/-- The pipeline around a deduper. -/
def setupWith (a : Agent) (clock : Clock) (names : Link.Table) (exporterFailsAt : Option Nat)
    (deduper : Deduper) : Pipeline.Setup where
  cache := .empty a.config.cacheMaxFlows.toNat a.config.cacheActiveTimeout clock
  deduper := deduper
  decorator := { links := names, agentIp := a.ip }
  rawCapacity := a.config.bufferLength.toNat
  batchCapacity := a.config.bufferLength.toNat
  pace := pace
  exporterFailsAt := exporterFailsAt
  stages := [.intake, .cache, .deduper, .decorator, .export]

/-- The pipeline that the settings ask for. -/
def setup (a : Agent) (clock : Clock) (names : Link.Table) (exporterFailsAt : Option Nat) :
    Except TimeOverflow (Except ConfigError Pipeline.Setup) := do
  let dedup ← a.config.dedup
  return dedup.map fun (kind, mode, expiry) =>
    a.setupWith clock names exporterFailsAt (.empty kind mode expiry)

/-- What brings a run to its end, if it does not end by itself. -/
inductive Stimulus where
  /-- The run is cancelled before it starts. -/
  | cancelledBefore
  /-- The run is cancelled once its stages have done what they could do at once. -/
  | cancellation
  /-- The source closes behind its last event. -/
  | sourceCloses
  | none
deriving DecidableEq

/-- The world in which an agent runs. -/
structure World where
  clock : Clock
  /-- Results of reading the source. -/
  source : List (Except Intake.ReadError Bytes)
  names : Link.Table
  exporterFailsAt : Option Nat
  stimulus : Stimulus

/-- What a run has come to. -/
structure Outcome where
  effects : List Effect
  result : Except RunError Unit
  /-- How often the probe was told to flush its map. -/
  flushes : Nat
  /-- The exported batches. -/
  batches : List Batch

def Outcome.status (o : Outcome) : Status := statusAfter .initial o.effects

/-- The stages up to the moment at which something ends the run, if anything does. -/
def untilShutdown (setup : Pipeline.Setup) (world : World) : Pipeline :=
  let closes := world.stimulus == .sourceCloses
  let p := { Pipeline.start setup 0 with source := world.source, sourceClosed := closes }
  match world.stimulus with
  | .cancelledBefore => p
  | .cancellation => p.settle
  | .sourceCloses | .none => p.untilEnding

/-- What the supervisor sees up to that moment, when the stages have come to `endings`. -/
def World.moments (world : World) (endings : List (Stage × Ending)) : List Moment :=
  match world.stimulus with
  | .cancelledBefore => [⟨true, endings⟩]
  | .cancellation => [⟨false, endings⟩, ⟨true, endings⟩]
  | .sourceCloses | .none => [⟨false, endings⟩]

/-- The stages when they have finished, or their time is over. -/
def afterShutdown (p : Pipeline) : Pipeline :=
  { p with sourceClosed := true }.untilDeadline (p.now + graceNanos)

/-- Runs the stages until something ends the run, if anything does, and then
until they have finished or their time is over. -/
def runStages (setup : Pipeline.Setup) (world : World) : Option Outcome := do
  let p := untilShutdown setup world
  let q := afterShutdown p
  -- An ending that ends the wait is not drained; one that is there with it is.
  let drained := q.endings.drop (min 1 p.endings.length)
  let (effects, result) ← supervise (.ok ()) (world.moments p.endings) drained
  return { effects, result, flushes := q.flushes, batches := q.exporter.batches }

/-- Runs the agent. It has an outcome if anything makes its stages finish. -/
def run (a : Agent) (world : World) : Except Fault (Option Outcome) :=
  match a.setup world.clock world.names world.exporterFailsAt with
  | .error cause => .error (.time cause)
  | .ok (.error cause) =>
    return do
      let (effects, result) ← supervise (.error cause) [] []
      return { effects, result, flushes := 0, batches := [] }
  | .ok (.ok setup) =>
    match setup.checkChannels with
    | .error cause => .error (.channel cause)
    | .ok () => return runStages setup world

end Agent

end Flowmeter
