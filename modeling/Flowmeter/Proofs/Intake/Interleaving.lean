-- SUMMARY: Threads that record events and timers that report them, with their single accesses to the shared counters in any order.
import Flowmeter.Intake.Summary

/-!
# Interleaved accesses

Any number of threads may be recording an event, and the timers that they have
started may be reporting, all at once. What they share are the counters and the
gate, and of these each makes one access at a time. A run is any sequence of
such accesses, and of calls that begin; it notes the accesses that were made.

A call or a timer that nobody comes between does what `Window.record` and
`Window.report` do.
-/

namespace Flowmeter.Intake

/-! ## Threads -/

/-- An access to the counters or the gate, with what it found. -/
inductive Access where
  | countedForwarded
  | countedMapFull
  /-- The gate was tried, and found shut unless a window has begun with it. -/
  | tried (begins : Bool)
  | tookForwarded (forwarded : UInt32)
  | tookMapFull (mapFull : UInt32)
  /-- The window has ended with a summary. -/
  | finished (summary : Summary)
deriving DecidableEq

/-- What a call of `record` does next. -/
inductive Call where
  | countForwarded (mapFull : Bool)
  | countMapFull
  | tryGate
deriving DecidableEq

/-- What a timer does next, and what it has taken. -/
inductive Timer where
  /-- It sleeps, and takes the count of events then. -/
  | sleeping
  | takeMapFull (forwarded : UInt32)
  | finish (summary : Summary)
deriving DecidableEq

/-- The shared counters, and who is busy with them. -/
structure Threads where
  window : Window
  /-- The calls of `record` in progress. -/
  calls : List Call
  /-- The timers that have not finished. -/
  timers : List Timer
  /-- The accesses made so far. -/
  accesses : List Access
deriving DecidableEq

namespace Threads

def start : Threads := { window := .empty, calls := [], timers := [], accesses := [] }

/-- A thread calls `record`. -/
def call (s : Threads) (mapFull : Bool) : Threads :=
  { s with calls := s.calls ++ [.countForwarded mapFull] }

/-- The next access of the call at place `i`. A call that begins a window starts a timer. -/
def advanceCall (s : Threads) (i : Nat) : Option Threads :=
  match s.calls[i]? with
  | none => none
  | some (.countForwarded mapFull) =>
    some { s with
      window := s.window.countForwarded
      calls := s.calls.set i (if mapFull then .countMapFull else .tryGate)
      accesses := s.accesses ++ [.countedForwarded] }
  | some .countMapFull =>
    some { s with
      window := s.window.countMapFull
      calls := s.calls.set i .tryGate
      accesses := s.accesses ++ [.countedMapFull] }
  | some .tryGate =>
    let (begins, window) := s.window.begin
    some { s with
      window
      calls := s.calls.eraseIdx i
      timers := if begins then s.timers ++ [.sleeping] else s.timers
      accesses := s.accesses ++ [.tried begins] }

/-- The next access of the timer at place `i`. -/
def advanceTimer (s : Threads) (i : Nat) : Option Threads :=
  match s.timers[i]? with
  | none => none
  | some .sleeping =>
    let (forwarded, window) := s.window.takeForwarded
    some { s with
      window
      timers := s.timers.set i (.takeMapFull forwarded)
      accesses := s.accesses ++ [.tookForwarded forwarded] }
  | some (.takeMapFull forwarded) =>
    let (mapFull, window) := s.window.takeMapFull
    some { s with
      window
      timers := s.timers.set i (.finish ⟨forwarded, mapFull⟩)
      accesses := s.accesses ++ [.tookMapFull mapFull] }
  | some (.finish summary) =>
    some { s with
      window := s.window.finish
      timers := s.timers.eraseIdx i
      accesses := s.accesses ++ [.finished summary] }

/-- What happens next. -/
inductive Act where
  | call (mapFull : Bool)
  | advanceCall (i : Nat)
  | advanceTimer (i : Nat)

/-- The threads after an act, if it can happen. -/
def next (s : Threads) : Act → Option Threads
  | .call mapFull => some (s.call mapFull)
  | .advanceCall i => s.advanceCall i
  | .advanceTimer i => s.advanceTimer i

/-- The threads after all the acts, if they can happen in this order. -/
def run : Threads → List Act → Option Threads
  | s, [] => some s
  | s, act :: acts =>
    match s.next act with
    | none => none
    | some s => run s acts

/-! ## Alone -/

/-- The acts of a call of `record` at place `i` that nobody comes between. -/
def recordAlone (i : Nat) (mapFull : Bool) : List Act :=
  .call mapFull :: List.replicate (if mapFull then 3 else 2) (.advanceCall i)

theorem run_recordAlone (s : Threads) (mapFull : Bool) :
    ∃ noted, s.run (recordAlone s.calls.length mapFull) = some { s with
      window := (s.window.record mapFull).2
      timers := if (s.window.record mapFull).1 then s.timers ++ [.sleeping] else s.timers
      accesses := s.accesses ++ noted } := by
  cases mapFull with
  | false =>
    refine ⟨[.countedForwarded, .tried (!s.window.active)], ?_⟩
    simp [recordAlone, List.replicate, run, next, call, advanceCall, Window.record, Window.begin,
      Window.countForwarded, List.eraseIdx_append_of_length_le]
  | true =>
    refine ⟨[.countedForwarded, .countedMapFull, .tried (!s.window.active)], ?_⟩
    simp [recordAlone, List.replicate, run, next, call, advanceCall, Window.record, Window.begin,
      Window.countForwarded, Window.countMapFull, List.eraseIdx_append_of_length_le]

/-- A timer that nobody comes between reports. -/
theorem run_reportAlone {s : Threads} {i : Nat} (hsleeping : s.timers[i]? = some .sleeping) :
    ∃ noted, s.run (List.replicate 3 (.advanceTimer i)) = some { s with
      window := s.window.report.2
      timers := s.timers.eraseIdx i
      accesses := s.accesses ++ noted ++ [.finished s.window.report.1] } := by
  obtain ⟨hi, hget⟩ := List.getElem?_eq_some_iff.1 hsleeping
  refine ⟨[.tookForwarded s.window.forwarded, .tookMapFull s.window.mapFull], ?_⟩
  simp [List.replicate, run, next, advanceTimer, hi, hget, List.eraseIdx_set_eq,
    Window.report, Window.takeForwarded, Window.takeMapFull]

/-! ## Steps -/

/-- What can happen next. -/
inductive Step (s : Threads) : Threads → Prop where
  | call {mapFull : Bool} : Step s (s.call mapFull)
  | countForwarded {i : Nat} {mapFull : Bool} : s.calls[i]? = some (.countForwarded mapFull) →
      Step s { s with
        window := s.window.countForwarded
        calls := s.calls.set i (if mapFull then .countMapFull else .tryGate)
        accesses := s.accesses ++ [.countedForwarded] }
  | countMapFull {i : Nat} : s.calls[i]? = some .countMapFull →
      Step s { s with
        window := s.window.countMapFull
        calls := s.calls.set i .tryGate
        accesses := s.accesses ++ [.countedMapFull] }
  | findShut {i : Nat} : s.calls[i]? = some .tryGate → s.window.active = true →
      Step s { s with
        calls := s.calls.eraseIdx i
        accesses := s.accesses ++ [.tried false] }
  | begin {i : Nat} : s.calls[i]? = some .tryGate → s.window.active = false →
      Step s { s with
        window := { s.window with active := true }
        calls := s.calls.eraseIdx i
        timers := s.timers ++ [.sleeping]
        accesses := s.accesses ++ [.tried true] }
  | takeForwarded {i : Nat} : s.timers[i]? = some .sleeping →
      Step s { s with
        window := { s.window with forwarded := 0 }
        timers := s.timers.set i (.takeMapFull s.window.forwarded)
        accesses := s.accesses ++ [.tookForwarded s.window.forwarded] }
  | takeMapFull {i : Nat} {forwarded : UInt32} : s.timers[i]? = some (.takeMapFull forwarded) →
      Step s { s with
        window := { s.window with mapFull := 0 }
        timers := s.timers.set i (.finish ⟨forwarded, s.window.mapFull⟩)
        accesses := s.accesses ++ [.tookMapFull s.window.mapFull] }
  | finish {i : Nat} {summary : Summary} : s.timers[i]? = some (.finish summary) →
      Step s { s with
        window := { s.window with active := false }
        timers := s.timers.eraseIdx i
        accesses := s.accesses ++ [.finished summary] }

variable {s s' : Threads} {act : Act} {acts : List Act}

theorem step_of_advanceCall {i : Nat} (h : s.advanceCall i = some s') : Step s s' := by
  unfold advanceCall at h
  split at h
  · cases h
  · next mapFull hcall =>
    obtain rfl := Option.some.inj h
    exact .countForwarded hcall
  · next hcall =>
    obtain rfl := Option.some.inj h
    exact .countMapFull hcall
  · next hcall =>
    cases hactive : s.window.active with
    | true =>
      have hwindow : { s.window with active := true } = s.window := by rw [← hactive]
      simp only [Window.begin, hactive, hwindow] at h
      obtain rfl := Option.some.inj h
      exact .findShut hcall hactive
    | false =>
      simp only [Window.begin, hactive] at h
      obtain rfl := Option.some.inj h
      exact .begin hcall hactive

theorem step_of_advanceTimer {i : Nat} (h : s.advanceTimer i = some s') : Step s s' := by
  unfold advanceTimer at h
  split at h
  · cases h
  · next htimer =>
    obtain rfl := Option.some.inj h
    exact .takeForwarded htimer
  · next forwarded htimer =>
    obtain rfl := Option.some.inj h
    exact .takeMapFull htimer
  · next summary htimer =>
    obtain rfl := Option.some.inj h
    exact .finish htimer

theorem step_of_next (h : s.next act = some s') : Step s s' := by
  cases act with
  | call mapFull =>
    obtain rfl := Option.some.inj h
    exact .call
  | advanceCall i => exact step_of_advanceCall h
  | advanceTimer i => exact step_of_advanceTimer h

/-- What every step keeps, a run keeps. -/
theorem run_induction {P : Threads → Prop} (h : s.run acts = some s') (hstart : P s)
    (hstep : ∀ s s', Step s s' → P s → P s') : P s' := by
  induction acts generalizing s with
  | nil =>
    obtain rfl := Option.some.inj h
    exact hstart
  | cons act acts ih =>
    rw [run] at h
    split at h
    · cases h
    · next s₁ hnext => exact ih h (hstep s s₁ (step_of_next hnext) hstart)

end Threads

end Flowmeter.Intake
