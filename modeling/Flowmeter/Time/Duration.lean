-- SUMMARY: Spans of time, instants of the monotonic clock, wall clock times, and the ways their arithmetic overflows.

/-!
# Time

A duration is a whole number of nanoseconds whose seconds fit in 64 bits. An
instant is a number of nanoseconds after the moment the pipeline calls zero.
Arithmetic that leaves either range has no result. It breaks off whoever
computes, which is not the same as an error that is reported; where both can
happen, the result is of type `Except TimeOverflow (Except ε α)`.
-/

namespace Flowmeter

def nanosPerSecond : Nat := 1000000000

/-- Why a computation on times has no result. -/
inductive TimeOverflow where
  | newDuration
  | multiplyDuration
  | addToInstant
deriving DecidableEq

def TimeOverflow.message : TimeOverflow → String
  | .newDuration => "overflow in Duration::new"
  | .multiplyDuration => "overflow when multiplying duration by scalar"
  | .addToInstant => "overflow when adding duration to instant"

/-! ## Durations -/

structure Duration where
  nanos : Nat
  lt_limit : nanos < UInt64.size * nanosPerSecond
deriving DecidableEq

namespace Duration

def ofNanos? (nanos : Nat) : Option Duration :=
  if h : nanos < UInt64.size * nanosPerSecond then some ⟨nanos, h⟩ else none

/-- Nanoseconds beyond a whole second carry into the seconds. -/
def ofParts (seconds nanos : Nat) : Except TimeOverflow Duration :=
  match ofNanos? (seconds * nanosPerSecond + nanos) with
  | some d => .ok d
  | none => .error .newDuration

def zero : Duration := ⟨0, by decide⟩

def ofSeconds (seconds : UInt32) : Duration :=
  ⟨seconds.toNat * nanosPerSecond, by
    have := seconds.toNat_lt
    simp only [nanosPerSecond, UInt64.size]; omega⟩

def ofMillis (millis : UInt64) : Duration :=
  ⟨millis.toNat * 1000000, by
    have := millis.toNat_lt
    simp only [nanosPerSecond, UInt64.size]; omega⟩

/-- Whole seconds. -/
def seconds (d : Duration) : Nat := d.nanos / nanosPerSecond

/-- Nanoseconds past the whole seconds. -/
def subsecNanos (d : Duration) : Nat := d.nanos % nanosPerSecond

def double (d : Duration) : Except TimeOverflow Duration :=
  match ofNanos? (2 * d.nanos) with
  | some d => .ok d
  | none => .error .multiplyDuration

end Duration

/-! ## Instants -/

/-- Nanoseconds after the pipeline's zero. -/
abbrev Instant := Nat

namespace Instant

/-- No instant lies this far ahead, 2 ^ 63 - 1 seconds after zero. -/
def limit : Nat := (UInt64.size / 2 - 1) * nanosPerSecond

/-- The instant `d` after `now`. -/
def add (now : Instant) (d : Duration) : Except TimeOverflow Instant :=
  if now + d.nanos < limit then .ok (now + d.nanos) else .error .addToInstant

end Instant

/-! ## Wall clock -/

/-- Nanoseconds after the Unix epoch, negative before it. -/
abbrev WallTime := Int

/-- Turns monotonic timestamps of flow metrics into wall clock times. -/
structure Clock where
  /-- The wall time of monotonic zero. -/
  boot : WallTime
deriving DecidableEq

def Clock.wall (clock : Clock) (nanos : UInt64) : WallTime := clock.boot + nanos.toNat

end Flowmeter
