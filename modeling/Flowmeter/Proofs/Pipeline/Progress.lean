-- SUMMARY: Once the intake has ended, some stage has something to do until all stages have ended.
import Flowmeter.Proofs.Pipeline.Endings

/-!
# Progress

A stage is stuck if it holds a batch for which there is no room, or has nothing
to receive while more may come. A full channel has something for the stage
behind it, and a quiet one waits for the stage in front of it. So the search
for a stage that can act goes from the exporter up to the cache, and ends there
once nothing comes from the intake any more.

A tick at which no flow is expired is idle; it is not counted as something to do.
-/

namespace Flowmeter

/-! ## Quiet channels -/

namespace Channel

/-- There is nothing to receive, but more may come. -/
def IsQuiet {α : Type} (c : Channel α) : Prop := c.queue = [] ∧ c.closed = false

theorem isQuiet_or {α : Type} (c : Channel α) :
    c.IsQuiet ∨ (∃ item queue, c.queue = item :: queue) ∨ c.queue = [] ∧ c.closed = true := by
  cases hqueue : c.queue with
  | nil => cases hclosed : c.closed <;> simp [IsQuiet, hqueue, hclosed]
  | cons item queue => exact .inr (.inl ⟨item, queue, rfl⟩)

namespace Joins

variable {α β γ : Type} {sender : Phase α} {receiver : Phase β} {c : Channel γ}

theorem sender_runs (h : Joins sender c receiver) (hquiet : c.IsQuiet) : sender.hasEnded = false :=
  h.closed_eq.symm.trans hquiet.2

/-- The stage in front of a quiet channel can send what it holds. -/
theorem hasRoom (h : Joins sender c receiver) (hquiet : c.IsQuiet) (hcapacity : 1 ≤ c.capacity) :
    c.HasRoom := by
  refine ⟨hquiet.2, ?_, ?_⟩
  · rw [h.dropped_eq, Bool.eq_false_iff]
    intro hended
    have hclosed := (h.exhausted hended).1
    rw [hquiet.2] at hclosed
    cases hclosed
  · rw [hquiet.1]
    exact hcapacity

end Joins

end Channel

/-- A stage that runs waits for something, or holds an item. -/
theorem Phase.ready_or_items {α : Type} {phase : Phase α} (h : phase.hasEnded = false) :
    phase = .ready ∨ ∃ item, phase = .holding item ∨ phase = .parting item := by
  cases phase with
  | ready => exact .inl rfl
  | holding item => exact .inr ⟨item, .inl rfl⟩
  | parting item => exact .inr ⟨item, .inr rfl⟩
  | ended e => cases h

namespace Pipeline

variable {p q : Pipeline} {arrived : List (Except Intake.ReadError Bytes)} {sent : List RawRecord}

/-! ## Room -/

/-- Every channel behind the cache can hold a batch, and the exporter never waits with one. -/
structure Spacious (p : Pipeline) : Prop where
  evicted : 1 ≤ p.evicted.capacity
  deduped : 1 ≤ p.deduped.capacity
  decorated : 1 ≤ p.decorated.capacity
  exporting : p.exporting.items = []

theorem start_spacious {setup : Setup} (hbatch : 1 ≤ setup.batchCapacity) (now : Instant) :
    (start setup now).Spacious where
  evicted := hbatch
  deduped := hbatch
  decorated := hbatch
  exporting := by
    simp only [start]
    split <;> rfl

theorem stop_spacious (hp : p.Spacious) (stage : Stage) (e : Ending) :
    (p.stop stage e).Spacious := by
  cases stage with
  | «export» => exact { hp with exporting := rfl }
  | _ => exact { hp with }

theorem Step.spacious (h : Step p arrived sent q) (hp : p.Spacious) : q.Spacious := by
  cases h with
  | intake h => cases h <;> exact { hp with }
  | cache h => cases h <;> exact { hp with }
  | deduper h => cases h <;> exact { hp with }
  | decorator h => cases h <;> exact { hp with }
  | «export» h =>
    cases h with
    | «export» => exact { hp with }
    | fail => exact { hp with exporting := rfl }
    | finish => exact { hp with exporting := rfl }
  | quit => exact stop_spacious hp _ _
  | world h => cases h <;> exact { hp with }

/-! ## Something to do -/

/-- Whether the action only lets ticks go by at which no flow is expired. -/
def Action.isIdle (p : Pipeline) : Action → Bool
  | .skipTicks => true
  | .tick =>
    match p.cache.expire p.now with
    | .ok ([], _) => true
    | _ => false
  | _ => false

/-- A stage does something. -/
def BusyStep (p q : Pipeline) : Prop :=
  ∃ action : Action, action.isIdle p = false ∧ action.apply p = some q

def IsBusy (p : Pipeline) : Prop := ∃ q, BusyStep p q

theorem isBusy_of_isSome {a : Action} (hbusy : a.isIdle p = false)
    (h : (a.apply p).isSome = true) : p.IsBusy := by
  obtain ⟨q, hq⟩ := Option.isSome_iff_exists.1 h
  exact ⟨q, a, hbusy, hq⟩

theorem isSome_sendHeld {α : Type} {phase : Phase α} {c : Channel α} {item : α}
    (hholds : phase = .holding item ∨ phase = .parting item) (hroom : c.HasRoom)
    (accepted : Channel α → Pipeline) (refused : Pipeline) :
    (sendHeld phase c accepted refused).isSome = true := by
  have hsend : c.send item = .accepted (c.push item) :=
    Channel.send_eq_accepted_iff.2 ⟨hroom, rfl⟩
  rcases hholds with rfl | rfl
  · simp [sendHeld, hsend]
  · simp [sendHeld, hsend]

/-! Each stage either acts or waits at a quiet channel. -/

theorem exporter_acts (hp : p.Spacious) (hruns : p.exporting.hasEnded = false) :
    p.IsBusy ∨ p.decorated.IsQuiet := by
  have hready : p.exporting = .ready := by
    rcases Phase.ready_or_items hruns with hready | ⟨batch, hholds⟩
    · exact hready
    · have hnothing := hp.exporting
      rcases hholds with hholds | hholds <;> rw [hholds] at hnothing <;> cases hnothing
  rcases p.decorated.isQuiet_or with hquiet | ⟨batch, queue, hqueue⟩ | ⟨hqueue, hclosed⟩
  · exact .inr hquiet
  · left
    apply isBusy_of_isSome (a := .export) rfl
    by_cases hfails : p.exporter.failsAt = some p.exporter.batches.length <;>
      simp [Action.apply, «export», hready, Channel.receive?, hqueue, hfails]
  · left
    apply isBusy_of_isSome (a := .export) rfl
    simp [Action.apply, «export», hready, Channel.receive?, hqueue, hclosed]

theorem decorator_acts (hp : p.Wired) (hroom : p.Spacious) (hquiet : p.decorated.IsQuiet) :
    p.IsBusy ∨ p.deduped.IsQuiet := by
  rcases Phase.ready_or_items (hp.decorated.sender_runs hquiet) with hready | ⟨batch, hholds⟩
  · rcases p.deduped.isQuiet_or with hquiet | ⟨batch, queue, hqueue⟩ | ⟨hqueue, hclosed⟩
    · exact .inr hquiet
    · left
      apply isBusy_of_isSome (a := .decorate) rfl
      simp [Action.apply, decorate, hready, Channel.receive?, hqueue]
    · left
      apply isBusy_of_isSome (a := .decorate) rfl
      simp [Action.apply, decorate, hready, Channel.receive?, hqueue, hclosed]
  · left
    apply isBusy_of_isSome (a := .sendDecorated) rfl
    exact isSome_sendHeld hholds (hp.decorated.hasRoom hquiet hroom.decorated) _ _

theorem deduper_acts (hp : p.Wired) (hroom : p.Spacious) (hquiet : p.deduped.IsQuiet) :
    p.IsBusy ∨ p.evicted.IsQuiet := by
  rcases Phase.ready_or_items (hp.deduped.sender_runs hquiet) with hready | ⟨batch, hholds⟩
  · rcases p.evicted.isQuiet_or with hquiet | ⟨batch, queue, hqueue⟩ | ⟨hqueue, hclosed⟩
    · exact .inr hquiet
    · left
      apply isBusy_of_isSome (a := .dedup) rfl
      cases hjudge : p.deduper.dedup batch (p.now + p.pace) <;>
        simp [Action.apply, dedup, hready, Channel.receive?, hqueue, hjudge]
    · left
      apply isBusy_of_isSome (a := .dedup) rfl
      simp [Action.apply, dedup, hready, Channel.receive?, hqueue, hclosed]
  · left
    apply isBusy_of_isSome (a := .sendDeduped) rfl
    exact isSome_sendHeld hholds (hp.deduped.hasRoom hquiet hroom.deduped) _ _

theorem cache_acts (hp : p.Wired) (hroom : p.Spacious) (hquiet : p.evicted.IsQuiet) :
    p.IsBusy ∨ p.raw.IsQuiet := by
  rcases Phase.ready_or_items (hp.evicted.sender_runs hquiet) with hready | ⟨batch, hholds⟩
  · cases hdue : p.nextTick with
    | none =>
      left
      apply isBusy_of_isSome (a := .startTimer) rfl
      by_cases hzero : p.cache.timeout = .zero
      · simp [Action.apply, startTimer, hready, hdue, hzero]
      · cases hadd : Instant.add p.now p.cache.timeout <;>
          simp [Action.apply, startTimer, hready, hdue, hzero, hadd]
    | some due =>
      rcases p.raw.isQuiet_or with hquiet | ⟨r, queue, hqueue⟩ | ⟨hqueue, hclosed⟩
      · exact .inr hquiet
      · left
        apply isBusy_of_isSome (a := .insert) rfl
        simp [Action.apply, insert, hready, hdue, Channel.receive?, hqueue]
      · left
        apply isBusy_of_isSome (a := .drain) rfl
        simp [Action.apply, drain, hready, hdue, Channel.isExhausted, hqueue, hclosed]
  · left
    apply isBusy_of_isSome (a := .sendEvicted) rfl
    have hsend : p.evicted.send batch = .accepted (p.evicted.push batch) :=
      Channel.send_eq_accepted_iff.2 ⟨hp.evicted.hasRoom hquiet hroom.evicted, rfl⟩
    rcases hholds with hholds | hholds <;> simp [Action.apply, sendEvicted, hholds, hsend]

/-- If the exporter has ended, all have. -/
theorem Wired.hasEnded (hp : p.Wired) (h : p.exporting.hasEnded = true) : p.HasEnded := by
  have hdecorating := hp.decorated.closed_eq.symm.trans (hp.decorated.exhausted h).1
  have hdeduping := hp.deduped.closed_eq.symm.trans (hp.deduped.exhausted hdecorating).1
  have hcaching := hp.evicted.closed_eq.symm.trans (hp.evicted.exhausted hdeduping).1
  have hintake := hp.raw.closed_eq.symm.trans (hp.raw.exhausted hcaching).1
  intro stage
  rw [ending?_eq]
  cases stage <;> assumption

/-- Nothing is stuck once the intake has ended. -/
theorem hasEnded_or_isBusy (hp : p.Wired) (hroom : p.Spacious)
    (hclosed : p.intake.hasEnded = true) : p.HasEnded ∨ p.IsBusy := by
  cases hruns : p.exporting.hasEnded with
  | true => exact .inl (hp.hasEnded hruns)
  | false =>
    right
    rcases exporter_acts hroom hruns with hbusy | hdecorated
    · exact hbusy
    rcases decorator_acts hp hroom hdecorated with hbusy | hdeduped
    · exact hbusy
    rcases deduper_acts hp hroom hdeduped with hbusy | hevicted
    · exact hbusy
    rcases cache_acts hp hroom hevicted with hbusy | hraw
    · exact hbusy
    have hopen := hp.raw.sender_runs hraw
    rw [hclosed] at hopen
    cases hopen

end Pipeline

end Flowmeter
