-- SUMMARY: What sending and receiving do to a channel, and how a channel joins the stages at its ends.
import Flowmeter.Pipeline.State

/-!
# Channels between stages

A channel that joins two running stages is open. It closes when the stage that
sends comes to its end; the stage that receives comes to its end after that,
when it has taken all that was sent. So as long as stages only end in this way
no item is refused and none is lost.
-/

namespace Flowmeter

/-! ## Sending and receiving -/

namespace Channel

variable {α : Type}

/-- Both ends are there, and there is room for an item. -/
def HasRoom (c : Channel α) : Prop :=
  c.closed = false ∧ c.dropped = false ∧ c.queue.length < c.capacity

/-- An end has gone away. -/
def IsCut (c : Channel α) : Prop := c.closed = true ∨ c.dropped = true

/-- The channel with `item` behind all others. -/
def push (c : Channel α) (item : α) : Channel α := { c with queue := c.queue ++ [item] }

theorem send_eq_accepted_iff {c c' : Channel α} {item : α} :
    c.send item = .accepted c' ↔ c.HasRoom ∧ c' = c.push item := by
  obtain ⟨capacity, queue, closed, dropped⟩ := c
  simp only [send, push, HasRoom]
  cases closed <;> cases dropped <;> by_cases h : queue.length < capacity <;> simp [h, eq_comm]

theorem send_eq_refused_iff {c : Channel α} {item : α} :
    c.send item = .refused ↔ c.IsCut := by
  simp only [send, IsCut]
  cases c.closed <;> cases c.dropped <;> by_cases h : c.queue.length < c.capacity <;> simp [h]

theorem receive?_eq_some_iff {c c' : Channel α} {item : α} :
    c.receive? = some (item, c') ↔
      ∃ queue, c.queue = item :: queue ∧ c' = { c with queue } := by
  simp only [receive?]
  cases c.queue with
  | nil => simp
  | cons first queue =>
    constructor
    · rintro ⟨⟩
      exact ⟨queue, rfl, rfl⟩
    · rintro ⟨_, ⟨⟩, rfl⟩
      rfl

theorem receive?_eq_none_iff {c : Channel α} : c.receive? = none ↔ c.queue = [] := by
  simp only [receive?]
  cases c.queue <;> simp

theorem isExhausted_iff {c : Channel α} :
    c.isExhausted = true ↔ c.closed = true ∧ c.queue = [] := by
  simp [isExhausted]

end Channel

/-! ## Phases -/

namespace Phase

variable {α : Type}

/-- What the stage could not send yet. -/
def items : Phase α → List α
  | .holding item | .parting item => [item]
  | .ready | .ended _ => []

def hasEnded : Phase α → Bool
  | .ended _ => true
  | .ready | .holding _ | .parting _ => false

/-- Whether the stage takes nothing in any more. -/
def isLeaving : Phase α → Bool
  | .parting _ | .ended _ => true
  | .ready | .holding _ => false

/-- What a stage is at with a batch that it passes on unless it is empty. -/
def handOver (batch : Batch) : Phase Batch := if batch.isEmpty then .ready else .holding batch

@[simp] theorem hasEnded_ready : (ready : Phase α).hasEnded = false := rfl
@[simp] theorem hasEnded_holding (item : α) : (holding item).hasEnded = false := rfl
@[simp] theorem hasEnded_parting (item : α) : (parting item).hasEnded = false := rfl
@[simp] theorem hasEnded_ended (e : Ending) : (ended e : Phase α).hasEnded = true := rfl

@[simp] theorem isLeaving_ready : (ready : Phase α).isLeaving = false := rfl
@[simp] theorem isLeaving_holding (item : α) : (holding item).isLeaving = false := rfl
@[simp] theorem isLeaving_parting (item : α) : (parting item).isLeaving = true := rfl
@[simp] theorem isLeaving_ended (e : Ending) : (ended e : Phase α).isLeaving = true := rfl

@[simp] theorem items_ready : (ready : Phase α).items = [] := rfl
@[simp] theorem items_holding (item : α) : (holding item).items = [item] := rfl
@[simp] theorem items_parting (item : α) : (parting item).items = [item] := rfl
@[simp] theorem items_ended (e : Ending) : (ended e : Phase α).items = [] := rfl

theorem hasEnded_of_items {phase : Phase α} {item : α} (h : phase.items = [item]) :
    phase.hasEnded = false := by
  cases phase with
  | ready => cases h
  | holding _ => rfl
  | parting _ => rfl
  | ended _ => cases h

theorem items_of_hasEnded {phase : Phase α} (h : phase.hasEnded = true) : phase.items = [] := by
  cases phase with
  | ended _ => rfl
  | ready => cases h
  | holding _ => cases h
  | parting _ => cases h

theorem isLeaving_of_hasEnded {phase : Phase α} (h : phase.hasEnded = true) :
    phase.isLeaving = true := by
  cases phase with
  | ended _ => rfl
  | ready => cases h
  | holding _ => cases h
  | parting _ => cases h

@[simp] theorem hasEnded_handOver (batch : Batch) : (handOver batch).hasEnded = false := by
  unfold handOver
  split <;> rfl

@[simp] theorem isLeaving_handOver (batch : Batch) : (handOver batch).isLeaving = false := by
  unfold handOver
  split <;> rfl

end Phase

/-! ## Joints -/

/-- The ends of a channel go away with the stages they belong to, and the
receiving stage not before the channel is closed and empty. -/
structure Channel.Joins {α β γ : Type} (sender : Phase α) (c : Channel γ) (receiver : Phase β) :
    Prop where
  closed_eq : c.closed = sender.hasEnded
  dropped_eq : c.dropped = receiver.hasEnded
  exhausted : receiver.hasEnded = true → c.closed = true ∧ c.queue = []

namespace Channel.Joins

variable {α β γ : Type} {sender sender' : Phase α} {receiver receiver' : Phase β} {c : Channel γ}

theorem empty (sender : Phase α) (receiver : Phase β) (capacity : Nat)
    (hsender : sender.hasEnded = false) (hreceiver : receiver.hasEnded = false) :
    Joins sender (.empty capacity : Channel γ) receiver where
  closed_eq := hsender.symm
  dropped_eq := hreceiver.symm
  exhausted h := by rw [hreceiver] at h; cases h

/-- A channel between two stages, of which the sending one runs, is open. -/
theorem not_isCut (h : Joins sender c receiver) (hsender : sender.hasEnded = false) :
    ¬ c.IsCut := by
  have hopen : ¬ c.closed = true := by
    rw [h.closed_eq, hsender]
    exact Bool.false_ne_true
  rintro (hclosed | hdropped)
  · exact hopen hclosed
  · exact hopen (h.exhausted (h.dropped_eq ▸ hdropped)).1

/-- The stages go on with something else. -/
theorem goOn (h : Joins sender c receiver) (hsender : sender'.hasEnded = sender.hasEnded)
    (hreceiver : receiver'.hasEnded = receiver.hasEnded) : Joins sender' c receiver' where
  closed_eq := by rw [h.closed_eq, hsender]
  dropped_eq := by rw [h.dropped_eq, hreceiver]
  exhausted hended := h.exhausted (hreceiver ▸ hended)

theorem push (h : Joins sender c receiver) (hsender : sender.hasEnded = false)
    (hsender' : sender'.hasEnded = false) (item : γ) : Joins sender' (c.push item) receiver where
  closed_eq := by rw [hsender', ← hsender]; exact h.closed_eq
  dropped_eq := h.dropped_eq
  exhausted hended := absurd (.inl (h.exhausted hended).1) (h.not_isCut hsender)

/-- The receiving stage, which still runs, takes an item. -/
theorem take (h : Joins sender c receiver) (hreceiver : receiver.hasEnded = false)
    (hreceiver' : receiver'.hasEnded = false) (queue : List γ) :
    Joins sender { c with queue } receiver' where
  closed_eq := h.closed_eq
  dropped_eq := by rw [hreceiver', ← hreceiver]; exact h.dropped_eq
  exhausted hended := by rw [hreceiver'] at hended; cases hended

theorem close (h : Joins sender c receiver) (e : Ending) :
    Joins (.ended e : Phase α) c.close receiver where
  closed_eq := rfl
  dropped_eq := h.dropped_eq
  exhausted hended := ⟨rfl, (h.exhausted hended).2⟩

theorem drop (h : Joins sender c receiver) (hclosed : c.closed = true) (e : Ending) :
    Joins sender c.drop (.ended e : Phase β) where
  closed_eq := h.closed_eq
  dropped_eq := rfl
  exhausted _ := ⟨hclosed, rfl⟩

end Channel.Joins

end Flowmeter
