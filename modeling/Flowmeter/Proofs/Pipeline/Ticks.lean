-- SUMMARY: Taking the due ticks at once comes to the same as taking them one by one, in one action and in a whole run.
import Flowmeter.Pipeline.Settle
import Flowmeter.Proofs.Pipeline.Passage

/-!
# Due ticks

The ticks that are due may be taken at once if no flow would be expired at them.
This is a shortcut only: such a tick leaves the cache as it is and puts the next
one a period ahead, so the ticks one by one lead to the same state. Hence
whatever a run comes to, a run comes to that takes every tick by itself.
-/

namespace Flowmeter

namespace Pipeline

variable {p q : Pipeline} {due : Instant} {t t' : Trace}

/-! ## Idle ticks -/

/-- The cache waits for the tick at `due`, and now no flow would be expired at it. -/
structure IdlesUntil (p : Pipeline) (due : Instant) : Prop where
  caching_eq : p.caching = .ready
  nextTick_eq : p.nextTick = some due
  expire_eq : p.cache.expire p.now = .ok ([], p.cache)

namespace IdlesUntil

theorem tick_eq (h : p.IdlesUntil due) (hdue : due ≤ p.now) :
    p.tick = some { p with nextTick := some (due + p.cache.timeout.nanos) } := by
  simp [tick, evict, h.caching_eq, h.nextTick_eq, h.expire_eq, Nat.not_lt.2 hdue]

theorem put (h : p.IdlesUntil due) (later : Instant) :
    { p with nextTick := some later }.IdlesUntil later :=
  { h with nextTick_eq := rfl }

theorem dueTicks_eq (h : p.IdlesUntil due) (hdue : due ≤ p.now) :
    p.dueTicks = (p.now - due) / p.cache.timeout.nanos + 1 := by
  simp only [dueTicks, h.nextTick_eq, if_neg (Nat.not_lt.2 hdue)]

theorem next_tick (h : t.pipeline.IdlesUntil due) (hdue : due ≤ t.pipeline.now) :
    t.next (.stage .tick) = some { t with
      pipeline := { t.pipeline with nextTick := some (due + t.pipeline.cache.timeout.nanos) } } :=
  Trace.next_of_silent (h.tick_eq hdue) rfl rfl

/-- As long as another tick is due, each of them puts the next one a period ahead. -/
theorem run_ticks (h : t.pipeline.IdlesUntil due) {count : Nat}
    (hlast : due + count * t.pipeline.cache.timeout.nanos ≤ t.pipeline.now) :
    t.run (List.replicate (count + 1) (.stage .tick)) = some { t with
      pipeline := { t.pipeline with
        nextTick := some (due + (count + 1) * t.pipeline.cache.timeout.nanos) } } := by
  have hfirst := h.next_tick (Nat.le_trans (Nat.le_add_right _ _) hlast)
  induction count generalizing t due with
  | zero => simp [List.replicate, Trace.run, hfirst]
  | succ count ih =>
    have hahead (k : Nat) : due + (k + 1) * t.pipeline.cache.timeout.nanos
        = due + t.pipeline.cache.timeout.nanos + k * t.pipeline.cache.timeout.nanos := by
      rw [Nat.succ_mul, Nat.add_comm (k * _), Nat.add_assoc]
    rw [hahead] at hlast
    have hwaits := h.put (due + t.pipeline.cache.timeout.nanos)
    have hsecond := next_tick (t := { t with pipeline := _ }) hwaits
      (Nat.le_trans (Nat.le_add_right _ _) hlast)
    rw [List.replicate_succ, Trace.run, hfirst, hahead]
    exact ih (t := { t with pipeline := _ }) hwaits hlast hsecond

end IdlesUntil

/-! ## One action -/

theorem skipTicks_eq_some (hwell : p.cache.WellFormed) (h : p.skipTicks = some q) :
    ∃ due, p.IdlesUntil due ∧ due ≤ p.now ∧
      q = { p with nextTick := some (due + p.dueTicks * p.cache.timeout.nanos) } := by
  unfold skipTicks at h
  split at h
  · next due cache hready hnext hexpire =>
    split at h
    · cases h
    · next hnow =>
      obtain rfl := Option.some.inj h
      obtain rfl := hwell.eq_of_expire_nil hexpire
      have hidles : p.IdlesUntil due := ⟨hready, hnext, hexpire⟩
      have hdue : due ≤ p.now := Nat.not_lt.1 hnow
      exact ⟨due, hidles, hdue, by rw [hidles.dueTicks_eq hdue]⟩
  · cases h

/-- Taking the due ticks at once is taking as many of them one by one. -/
theorem run_ticks_of_skipTicks (hwell : t.pipeline.cache.WellFormed)
    (h : t.pipeline.skipTicks = some q) :
    t.run (List.replicate t.pipeline.dueTicks (.stage .tick)) = t.next (.stage .skipTicks) := by
  have hskip : t.next (.stage .skipTicks) = some { t with pipeline := q } :=
    Trace.next_of_silent h rfl rfl
  obtain ⟨due, hidles, hdue, rfl⟩ := skipTicks_eq_some hwell h
  have hlast : due + (t.pipeline.now - due) / t.pipeline.cache.timeout.nanos
      * t.pipeline.cache.timeout.nanos ≤ t.pipeline.now :=
    Nat.add_le_of_le_sub' hdue (Nat.div_mul_le_self _ _)
  rw [hskip, hidles.dueTicks_eq hdue]
  exact hidles.run_ticks hlast

/-- No tick is due any more once all are taken, unless the period is zero. -/
theorem lt_nextTick_of_skipTicks (hwell : p.cache.WellFormed)
    (hperiod : 0 < p.cache.timeout.nanos) (h : p.skipTicks = some q) :
    ∃ next, q.nextTick = some next ∧ q.now < next := by
  obtain ⟨due, hidles, hdue, rfl⟩ := skipTicks_eq_some hwell h
  refine ⟨_, rfl, ?_⟩
  rw [hidles.dueTicks_eq hdue, Nat.mul_comm]
  exact (Nat.sub_lt_iff_lt_add' hdue).1 (Nat.lt_mul_div_succ _ hperiod)

/-! ## Whole runs -/

/-- The act, or the ticks that it takes at once. -/
def Act.singly (p : Pipeline) : Act → List Act
  | .stage .skipTicks => List.replicate p.dueTicks (.stage .tick)
  | act => [act]

namespace Trace

/-- The acts of a run, every tick by itself. -/
def singly : Trace → List Act → List Act := noted fun p act _ => act.singly p

theorem run_act_singly {act : Act} (hwell : t.pipeline.cache.WellFormed)
    (h : t.next act = some t') : t.run (act.singly t.pipeline) = some t' := by
  unfold Act.singly
  split
  · exact (run_ticks_of_skipTicks hwell (apply_of_next h)).trans h
  · simp [run, h]

/-- A run comes to the same if it takes every tick by itself. -/
theorem run_singly {acts : List Act} (hwell : t.pipeline.cache.WellFormed)
    (h : t.run acts = some t') : t.run (t.singly acts) = some t' := by
  induction acts generalizing t with
  | nil => exact h
  | cons act acts ih =>
    obtain ⟨t₁, hnext, hlater⟩ := run_cons h
    obtain ⟨arrived, sent, hstep, -, -⟩ := step_of_next hnext
    rw [singly, noted_cons hnext, run_append, run_act_singly hwell hnext]
    exact ih (hstep.wellFormed hwell) hlater

theorem skipTicks_notMem_singly (t : Trace) (acts : List Act) :
    .stage .skipTicks ∉ t.singly acts := by
  induction acts generalizing t with
  | nil => exact List.not_mem_nil
  | cons act acts ih =>
    rw [singly, noted]
    split
    · exact List.not_mem_nil
    · next t₁ _ =>
      refine List.not_mem_append ?_ (ih t₁)
      unfold Act.singly
      split
      · intro hmem
        cases List.eq_of_mem_replicate hmem
      · next hne =>
        intro hmem
        exact hne (List.mem_singleton.1 hmem).symm

end Trace

end Pipeline

end Flowmeter
