-- SUMMARY: When arithmetic on times has a result, and what a computation with a result went through.
import Flowmeter.Time.Duration

/-!
# Time without overflow
-/

namespace Flowmeter

/-- A computation has a result when each of its steps has one. -/
theorem bind_eq_ok {ε α β : Type} {x : Except ε α} {f : α → Except ε β} {b : β} :
    x >>= f = .ok b ↔ ∃ a, x = .ok a ∧ f a = .ok b := by
  cases x with
  | error e => simp [bind, Except.bind]
  | ok a => simp [bind, Except.bind]

theorem Instant.add_eq_ok_iff {now later : Instant} {d : Duration} :
    Instant.add now d = .ok later ↔ now + d.nanos < limit ∧ later = now + d.nanos := by
  simp only [Instant.add]
  split
  · next h => simp [h, eq_comm]
  · next h => simp [h]

end Flowmeter
