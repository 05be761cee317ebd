-- SUMMARY: Letting the stages act until none of them can, and the measure that shows that they stop.
import Flowmeter.Pipeline.Action

/-!
# Settling

Between two acts of the outside world the stages act until nothing is left
to do. The work that is left is a number: each item counts the more, the
further it is from the exporter, and every action makes the number smaller.
Inserting a record and judging a batch may move the clock on and make ticks
due, so records and batches count for that as well.
-/

namespace Flowmeter.Pipeline

/-! ## Work -/

namespace Phase

/-- One for a stage that runs, and `weight` more for what it holds. -/
def work {α : Type} (weight : Nat) : Phase α → Nat
  | .ready => 1
  | .holding _ | .parting _ => weight + 1
  | .ended _ => 0

end Phase

/-- How many ticks are due. -/
def dueTicks (p : Pipeline) : Nat :=
  match p.nextTick with
  | none => 1
  | some due => if p.now < due then 0 else (p.now - due) / p.cache.timeout.nanos + 1

/-- How many actions can happen at most before the outside world acts again. -/
def work (p : Pipeline) : Nat :=
  (14 + 2 * p.pace) * p.source.length + Phase.work (12 + 2 * p.pace) p.intake
    + (11 + 2 * p.pace) * p.raw.queue.length + (if p.flushRequested then 1 else 0) + p.dueTicks
    + (10 + p.pace) * p.cache.size + Phase.work (9 + p.pace) p.caching
    + (8 + p.pace) * p.evicted.queue.length + Phase.work 7 p.deduping
    + 6 * p.deduped.queue.length + Phase.work 5 p.decorating
    + 4 * p.decorated.queue.length + Phase.work 3 p.exporting

/-! ## Settling -/

/-- The state after the first of the actions that can happen. -/
def next? (p : Pipeline) : Option Pipeline := Action.all.findSome? (Action.apply p)

/-- At most `count` actions, one after the other. -/
def advance : Nat → Pipeline → Pipeline
  | 0, p => p
  | count + 1, p =>
    match p.next? with
    | none => p
    | some p => advance count p

/-- Acts until nothing can happen. -/
def settle (p : Pipeline) : Pipeline := advance p.work p

end Flowmeter.Pipeline
