-- SUMMARY: Letting time pass: when something is due next, and a run through all such moments.
import Flowmeter.Pipeline.Settle

/-!
# Waiting

Once the stages have settled, only time brings on more: the intake reads again
after its rest, and the timer of the cache goes off at flows that have lived
for the active timeout. A run lets the stages settle, moves the clock on to the
next such moment, and so on.

Ticks at which no flow is expired are no such moments. Each moment takes an
event from the source or a flow from the cache, so the work that is left bounds
how many there are.
-/

namespace Flowmeter.Pipeline

/-! ## The next moment -/

/-- How late a timer goes off, which keeps whole milliseconds. -/
def timerDelay : Nat := 1000000

/-- When the intake has rested. -/
def resumption? (p : Pipeline) : Option Instant :=
  match p.intake, p.isResting with
  | .ready, true => some p.restsUntil
  | _, _ => none

/-- When the timer of the cache next goes off at a flow that has lived for the timeout. -/
def expiry? (p : Pipeline) : Option Instant :=
  match p.caching, p.nextTick, p.cache.order with
  | .ready, some due, first :: _ =>
    let period := p.cache.timeout.nanos
    let lacking := first.created + period - (due + timerDelay)
    some (due + (lacking + period - 1) / period * period + timerDelay)
  | _, _, _ => none

/-- When something happens next, if nobody acts from outside. -/
def nextMoment? (p : Pipeline) : Option Instant :=
  match p.resumption?, p.expiry? with
  | some a, some b => some (min a b)
  | some a, none => some a
  | none, b => b

/-! ## A run through the moments -/

/-- Lets the stages settle and time pass by turns, through at most `count`
moments; `goesOn` says of a state and the next moment whether to wait for it. -/
def pass (goesOn : Pipeline → Instant → Bool) : Nat → Pipeline → Pipeline
  | 0, p => p.settle
  | count + 1, p =>
    let p := p.settle
    match p.nextMoment? with
    | none => p
    | some moment =>
      if goesOn p moment then pass goesOn count { p with now := moment } else p

/-- Lets time pass until a stage comes to its end or nothing is left to happen. -/
def untilEnding (p : Pipeline) : Pipeline := pass (fun p _ => p.endings.isEmpty) p.work p

/-- Lets time pass until `deadline` or until nothing is left to happen. -/
def untilDeadline (deadline : Instant) (p : Pipeline) : Pipeline :=
  pass (fun _ moment => moment < deadline) p.work p

end Flowmeter.Pipeline
