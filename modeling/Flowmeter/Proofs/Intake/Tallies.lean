-- SUMMARY: Every counted event is in a counter, with the timer or in a summary, and there is one timer at a time.
import Flowmeter.Proofs.Intake.Leftovers
import Mathlib.Algebra.GroupWithZero.Nat

/-!
# Tallies

Threads add to the counters and timers take from them, in any order. Nothing
gets lost between a count and a summary: what a counter holds and what was ever
taken from it make up what it has counted, as far as 32 bits can tell, and what
was taken is in a summary unless the timer that took it is still at work.

There is one such timer at most. Whoever begins a window starts one, and no
window begins while the gate is shut.
-/

namespace Flowmeter.Intake

/-! ## One counter -/

/-- What a counter holds and what was taken from it make up what it has counted, modulo
what it can hold. -/
def Balanced (counter : UInt32) (taken : List UInt32) (counted : Nat) : Prop :=
  (counter.toNat + (taken.map UInt32.toNat).sum) % UInt32.size = counted % UInt32.size

namespace Balanced

variable {counter : UInt32} {taken : List UInt32} {counted : Nat}

theorem add (h : Balanced counter taken counted) (n : Nat) :
    Balanced (counter + .ofNat n) taken (counted + n) := by
  unfold Balanced at h ⊢
  have hadd : (counter + .ofNat n).toNat = (counter.toNat + n) % UInt32.size := by
    rw [UInt32.toNat_add, UInt32.toNat_ofNat', Nat.add_mod_mod]
  rw [hadd, Nat.mod_add_mod, Nat.add_right_comm, Nat.add_mod, h, ← Nat.add_mod]

theorem take (h : Balanced counter taken counted) : Balanced 0 (taken ++ [counter]) counted := by
  unfold Balanced at h ⊢
  have hsum : ((taken ++ [counter]).map UInt32.toNat).sum
      = counter.toNat + (taken.map UInt32.toNat).sum := by
    simp [Nat.add_comm]
  rw [hsum, UInt32.toNat_zero, Nat.zero_add, h]

end Balanced

/-! ## What was taken, and what became of it -/

namespace Access

/-- The counts of events that timers have taken, in order. -/
def forwardedTaken (accesses : List Access) : List UInt32 :=
  accesses.filterMap fun
    | .tookForwarded forwarded => some forwarded
    | _ => none

/-- The same of the events that found the map full. -/
def mapFullTaken (accesses : List Access) : List UInt32 :=
  accesses.filterMap fun
    | .tookMapFull mapFull => some mapFull
    | _ => none

/-- The summaries with which windows have ended. -/
def summaries (accesses : List Access) : List Summary :=
  accesses.filterMap fun
    | .finished summary => some summary
    | _ => none

end Access

namespace Timer

/-- What the timer has taken and not reported yet. -/
def forwardedHeld : Timer → List UInt32
  | .sleeping => []
  | .takeMapFull forwarded => [forwarded]
  | .finish summary => [summary.forwarded]

/-- The same of the events that found the map full. -/
def mapFullHeld : Timer → List UInt32
  | .sleeping | .takeMapFull _ => []
  | .finish summary => [summary.mapFull]

end Timer

open Access

namespace Threads

/-- Every event is accounted for, and every window that has begun. -/
structure Tallied (s : Threads) : Prop where
  forwarded : Balanced s.window.forwarded (forwardedTaken s.accesses)
    (s.accesses.count .countedForwarded)
  mapFull : Balanced s.window.mapFull (mapFullTaken s.accesses) (s.accesses.count .countedMapFull)
  forwardedTaken_eq : forwardedTaken s.accesses
    = (summaries s.accesses).map Summary.forwarded ++ s.timers.flatMap Timer.forwardedHeld
  mapFullTaken_eq : mapFullTaken s.accesses
    = (summaries s.accesses).map Summary.mapFull ++ s.timers.flatMap Timer.mapFullHeld
  /-- A window has ended, or it has a timer. -/
  begun_eq : s.accesses.count (.tried true) = (summaries s.accesses).length + s.timers.length

variable {s s' : Threads} {acts : List Act}

theorem tallied_start : Tallied start where
  forwarded := rfl
  mapFull := rfl
  forwardedTaken_eq := rfl
  mapFullTaken_eq := rfl
  begun_eq := rfl

/-- An access that counts takes nothing, and begins and ends no window. -/
theorem Tallied.count (hs : Tallied s) {window : Window} {calls : List Call} {a : Access}
    (ha : a.IsCounting) (hforwarded : window.forwarded = s.window.forwarded + forwardedIn [a])
    (hmapFull : window.mapFull = s.window.mapFull + mapFullIn [a]) :
    Tallied { s with window, calls, accesses := s.accesses ++ [a] } := by
  have htaken : forwardedTaken (s.accesses ++ [a]) = forwardedTaken s.accesses := by
    rcases ha with rfl | rfl | rfl <;> simp [forwardedTaken]
  have htaken' : mapFullTaken (s.accesses ++ [a]) = mapFullTaken s.accesses := by
    rcases ha with rfl | rfl | rfl <;> simp [mapFullTaken]
  have hsummaries : summaries (s.accesses ++ [a]) = summaries s.accesses := by
    rcases ha with rfl | rfl | rfl <;> simp [summaries]
  have hbegun : (s.accesses ++ [a]).count (.tried true) = s.accesses.count (.tried true) := by
    rcases ha with rfl | rfl | rfl <;> simp
  refine ⟨?_, ?_, ?_, ?_, ?_⟩
  · rw [hforwarded, htaken, List.count_append]
    exact hs.forwarded.add _
  · rw [hmapFull, htaken', List.count_append]
    exact hs.mapFull.add _
  · rw [htaken, hsummaries]
    exact hs.forwardedTaken_eq
  · rw [htaken', hsummaries]
    exact hs.mapFullTaken_eq
  · rw [hbegun, hsummaries]
    exact hs.begun_eq

theorem Step.tallied (h : Step s s') (hgated : Gated s) (hs : Tallied s) : Tallied s' := by
  cases h with
  | call => exact ⟨hs.forwarded, hs.mapFull, hs.forwardedTaken_eq, hs.mapFullTaken_eq, hs.begun_eq⟩
  | countForwarded => exact hs.count (.inl rfl) rfl (UInt32.add_zero _).symm
  | countMapFull => exact hs.count (.inr (.inl rfl)) (UInt32.add_zero _).symm rfl
  | findShut =>
    exact hs.count (.inr (.inr rfl)) (UInt32.add_zero _).symm (UInt32.add_zero _).symm
  | begin =>
    refine ⟨?_, ?_, ?_, ?_, ?_⟩
    · simpa [forwardedTaken] using hs.forwarded
    · simpa [mapFullTaken] using hs.mapFull
    · simpa [forwardedTaken, summaries, Timer.forwardedHeld] using hs.forwardedTaken_eq
    · simpa [mapFullTaken, summaries, Timer.mapFullHeld] using hs.mapFullTaken_eq
    · simpa [summaries, ← Nat.add_assoc] using hs.begun_eq
  -- The timer that acts is the only one, so what it holds was taken last.
  | takeForwarded htimer =>
    obtain ⟨rfl, htimers, -, -⟩ := hgated.timer_eq htimer
    refine ⟨?_, ?_, ?_, ?_, ?_⟩
    · simpa [forwardedTaken] using hs.forwarded.take
    · simpa [mapFullTaken] using hs.mapFull
    · simpa [forwardedTaken, summaries, htimers, Timer.forwardedHeld] using hs.forwardedTaken_eq
    · simpa [mapFullTaken, summaries, htimers, Timer.mapFullHeld] using hs.mapFullTaken_eq
    · simpa [summaries, htimers] using hs.begun_eq
  | takeMapFull htimer =>
    obtain ⟨rfl, htimers, -, -⟩ := hgated.timer_eq htimer
    refine ⟨?_, ?_, ?_, ?_, ?_⟩
    · simpa [forwardedTaken] using hs.forwarded
    · simpa [mapFullTaken] using hs.mapFull.take
    · simpa [forwardedTaken, summaries, htimers, Timer.forwardedHeld] using hs.forwardedTaken_eq
    · simpa [mapFullTaken, summaries, htimers, Timer.mapFullHeld] using hs.mapFullTaken_eq
    · simpa [summaries, htimers] using hs.begun_eq
  | finish htimer =>
    obtain ⟨rfl, htimers, -, -⟩ := hgated.timer_eq htimer
    refine ⟨?_, ?_, ?_, ?_, ?_⟩
    · simpa [forwardedTaken] using hs.forwarded
    · simpa [mapFullTaken] using hs.mapFull
    · simpa [forwardedTaken, summaries, htimers, Timer.forwardedHeld] using hs.forwardedTaken_eq
    · simpa [mapFullTaken, summaries, htimers, Timer.mapFullHeld] using hs.mapFullTaken_eq
    · simpa [summaries, htimers] using hs.begun_eq

theorem tallied_of_run (hrun : start.run acts = some s) : Gated s ∧ Tallied s := by
  refine run_induction (P := fun s => Gated s ∧ Tallied s) hrun ⟨gated_start, tallied_start⟩ ?_
  intro s s' hstep ⟨hgated, htallied⟩
  exact ⟨hstep.gated hgated, hstep.tallied hgated htallied⟩

/-- The gate is shut just while there is a timer, and there are never two. -/
theorem Gated.timers_length (h : Gated s) :
    s.timers.length ≤ 1 ∧ (s.window.active = true ↔ s.timers.length = 1) := by
  cases h with
  | opened htimers hopen => simp [htimers, hopen]
  | shut htimers hshut => simp [htimers, hshut]

/-! ## All interleavings -/

/-- However the accesses of records and timers come between each other, at every moment a
counter and what was taken from it make up what it has counted, modulo 2 ^ 32. What was
taken is in a summary, or with the timer that is at work. The windows that have begun and
not ended have a timer each, that is one at most, and the gate is shut just while there is one. -/
theorem counted_once (hrun : start.run acts = some s) :
    (s.window.forwarded.toNat + ((forwardedTaken s.accesses).map UInt32.toNat).sum) % 2 ^ 32
      = s.accesses.count .countedForwarded % 2 ^ 32 ∧
    (s.window.mapFull.toNat + ((mapFullTaken s.accesses).map UInt32.toNat).sum) % 2 ^ 32
      = s.accesses.count .countedMapFull % 2 ^ 32 ∧
    forwardedTaken s.accesses
      = (summaries s.accesses).map Summary.forwarded ++ s.timers.flatMap Timer.forwardedHeld ∧
    mapFullTaken s.accesses
      = (summaries s.accesses).map Summary.mapFull ++ s.timers.flatMap Timer.mapFullHeld ∧
    s.accesses.count (.tried true) = (summaries s.accesses).length + s.timers.length ∧
    s.timers.length ≤ 1 ∧ (s.window.active = true ↔ s.timers.length = 1) := by
  obtain ⟨hgated, htallied⟩ := tallied_of_run hrun
  exact ⟨htallied.forwarded, htallied.mapFull, htallied.forwardedTaken_eq,
    htallied.mapFullTaken_eq, htallied.begun_eq, hgated.timers_length⟩

/-- The timer of a first event has taken the count of two, and a third event is counted before
it opens the gate. -/
def overlap : List Act :=
  [.call false, .advanceCall 0, .advanceCall 0, .call true, .advanceCall 0, .advanceTimer 0,
    .call false, .advanceCall 1, .advanceCall 0, .advanceCall 0, .advanceTimer 0]

/-- The timer holds two events of the three, and one is in the counter. -/
theorem counted_once_overlap :
    ∃ s, start.run overlap = some s ∧
      (s.window.forwarded.toNat + ((forwardedTaken s.accesses).map UInt32.toNat).sum) % 2 ^ 32
        = s.accesses.count .countedForwarded % 2 ^ 32 ∧
      forwardedTaken s.accesses = s.timers.flatMap Timer.forwardedHeld ∧
      s.accesses.count (.tried true) = s.timers.length ∧
      (s.window.active = true ↔ s.timers.length = 1) ∧
      s.window = ⟨1, 0, true⟩ ∧ s.timers = [.finish ⟨2, 1⟩] := by
  have hrun : start.run overlap = some _ := rfl
  obtain ⟨hforwarded, -, htaken, -, hbegun, -, hactive⟩ := counted_once hrun
  exact ⟨_, hrun, hforwarded, htaken, hbegun, hactive, rfl, rfl⟩

end Threads

end Flowmeter.Intake
