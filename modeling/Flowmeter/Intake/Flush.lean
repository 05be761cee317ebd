-- SUMMARY: Sets of flushers, which may contain snapshots of one another, and whom a flush calls.

/-!
# Flush sets

A flush set calls each of its members when it is flushed. Members are single
flushers, or copies of other sets taken at the moment they are added.
-/

namespace Flowmeter.Intake

/-- A set of flushers in the order in which they were added. -/
inductive FlushSet (α : Type) where
  | empty
  | add (set : FlushSet α) (member : α)
  | nest (set inner : FlushSet α)
deriving DecidableEq

/-- Whom a flush calls, in order, as often as they occur. -/
def FlushSet.calls {α : Type} : FlushSet α → List α
  | .empty => []
  | .add set member => set.calls ++ [member]
  | .nest set inner => set.calls ++ inner.calls

/-- What can be done with numbered flush sets. -/
inductive FlushCommand (α : Type) where
  | add (set : Nat) (member : α)
  /-- Adds a copy of `inner` to `set`. -/
  | nest (set inner : Nat)
  /-- Appends a copy of `set`. -/
  | copy (set : Nat)
  | flush (set : Nat)
deriving DecidableEq

namespace FlushCommand

variable {α : Type}

/-- The sets after a command, and the flushers that it called. -/
def run (sets : List (FlushSet α)) : FlushCommand α → List (FlushSet α) × List α
  | .add set member => (sets.modify set fun s => s.add member, [])
  | .nest set inner =>
    let inner := sets.getD inner .empty
    (sets.modify set fun s => s.nest inner, [])
  | .copy set => (sets ++ [sets.getD set .empty], [])
  | .flush set => (sets, (sets.getD set .empty).calls)

end FlushCommand

end Flowmeter.Intake
