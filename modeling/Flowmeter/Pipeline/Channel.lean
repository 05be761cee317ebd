-- SUMMARY: Bounded channels between stages, first in first out, with either end able to go away.
import Flowmeter.Text.Numeral

/-!
# Channels

A channel holds at most as many items as its capacity. Its senders may all go
away, and then it only empties; its receiver may go away, and then the items
in it are lost and no more are accepted. No channel holds nothing at all, and
there is a limit to what one can be asked to hold.
-/

namespace Flowmeter

structure Channel (α : Type) where
  capacity : Nat
  /-- The items on their way, the first to be received in front. -/
  queue : List α
  /-- No sender is left. -/
  closed : Bool
  /-- No receiver is left. -/
  dropped : Bool
deriving DecidableEq

namespace Channel

variable {α : Type}

/-- The largest capacity of a channel. -/
def maxCapacity : Nat := 2305843009213693951

/-- Why there is no channel of a capacity. -/
inductive CapacityError where
  | zero
  | tooLarge
deriving DecidableEq

def CapacityError.message : CapacityError → String
  | .zero => "mpsc bounded channel requires buffer > 0"
  | .tooLarge =>
    "a semaphore may not have more than MAX_PERMITS permits (" ++ Text.decimal maxCapacity ++ ")"

def checkCapacity (capacity : Nat) : Except CapacityError Unit :=
  if capacity = 0 then .error .zero
  else if maxCapacity < capacity then .error .tooLarge
  else .ok ()

def empty (capacity : Nat) : Channel α :=
  { capacity, queue := [], closed := false, dropped := false }

/-- What becomes of an item that is sent. -/
inductive Reply (α : Type) where
  | accepted (channel : Channel α)
  /-- There is no room at the moment. -/
  | full
  /-- There never will be a receiver. -/
  | refused

def send (c : Channel α) (item : α) : Reply α :=
  if c.closed || c.dropped then .refused
  else if c.queue.length < c.capacity then .accepted { c with queue := c.queue ++ [item] }
  else .full

/-- The first item, and the channel without it. -/
def receive? (c : Channel α) : Option (α × Channel α) :=
  match c.queue with
  | [] => none
  | item :: queue => some (item, { c with queue })

/-- Whether nothing will ever be received again. -/
def isExhausted (c : Channel α) : Bool := c.closed && c.queue.isEmpty

/-- The last sender goes away. -/
def close (c : Channel α) : Channel α := { c with closed := true }

/-- The receiver goes away. -/
def drop (c : Channel α) : Channel α := { c with queue := [], dropped := true }

/-- Sends items for which there is room, in order, and says which ones were accepted. -/
def sendAll (c : Channel α) : List α → List Bool × Channel α
  | [] => ([], c)
  | item :: items =>
    match c.send item with
    | .accepted c =>
      let (accepted, c) := c.sendAll items
      (true :: accepted, c)
    | .full | .refused =>
      let (accepted, c) := c.sendAll items
      (false :: accepted, c)

end Channel

end Flowmeter
