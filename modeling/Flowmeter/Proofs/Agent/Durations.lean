-- SUMMARY: The durations of accepted settings are safe just as long as the clock can take them, and validation does not see to that.
import Flowmeter.Proofs.Agent.Passage
import Flowmeter.Proofs.Agent.Settings
import Flowmeter.Proofs.Flow.Samples
import Flowmeter.Proofs.Pipeline.Deadlines

/-!
# Accepted durations

Validation asks of the active timeout that it is positive and can be doubled,
and of the expiry of the deduper nothing. But the clock ends half way to the
longest duration. So whether the stages can compute their deadlines up to some
uptime depends on whether both durations can be added to it, and there are
accepted settings with which a stage fails as soon as it starts.
-/

namespace Flowmeter

namespace Duration

def longest : Duration := ⟨UInt64.size * nanosPerSecond - 1, by decide⟩

/-- The most whole seconds that can be doubled. -/
def halfLongest : Duration := ⟨(UInt64.size / 2 - 1) * nanosPerSecond, by decide⟩

end Duration

namespace Config

/-- How long an ownership lasts, in nanoseconds. -/
def ownershipNanos (config : Config) : Nat :=
  match config.deduperExpiry with
  | some expiry => expiry.nanos
  | none => 2 * config.cacheActiveTimeout.nanos

/-- The active timeout can be added to `now`, and so can an ownership if the deduper needs it. -/
def FitsAt (config : Config) (now : Instant) : Prop :=
  now + config.cacheActiveTimeout.nanos < Instant.limit ∧
    (config.deduper = "none" ∨ now + config.ownershipNanos < Instant.limit)

end Config

theorem Dedup.Kind.ofText?_eq_none_iff {text : String} :
    ofText? text = some .none ↔ text = "none" := by
  unfold ofText?
  split <;> simp_all

namespace Agent

open Pipeline

theorem setup_fitsAt_iff {a : Agent} {clock : Clock} {names : Link.Table} {failsAt : Option Nat}
    {setup : Setup} (hsetup : a.setup clock names failsAt = .ok (.ok setup)) (now : Instant) :
    setup.FitsAt now ↔ a.config.FitsAt now := by
  obtain ⟨kind, mode, expiry, hdedup, rfl⟩ := setup_eq_ok_iff.1 hsetup
  obtain ⟨hkind, -, twice, htwice, rfl⟩ := Config.dedup_eq_ok_iff.1 hdedup
  have hnone : kind = .none ↔ a.config.deduper = "none" := by
    rw [← Dedup.Kind.ofText?_eq_none_iff, hkind, Option.some.injEq]
  have hownership : (a.config.deduperExpiry.getD twice).nanos = a.config.ownershipNanos := by
    unfold Config.ownershipNanos
    cases a.config.deduperExpiry with
    | none => exact htwice
    | some expiry => rfl
  simp only [Setup.FitsAt, setupWith, Config.FitsAt, Cache.empty, Deduper.empty, hnone, hownership]

/-- A packet goes as far as the deduper. -/
def toDeduper : List Act :=
  [.arrive (.ok (RawRecord.encode ⟨.tcpFrom 1 3, .ofPacket 60 5⟩)), .requestFlush,
    .stage .startTimer, .stage .read, .stage .sendRaw, .stage .insert, .stage .flush,
    .stage .sendEvicted, .stage .dedup]

/-- Where a duration does not fit, the stage that needs it may fail at once. -/
theorem exists_failing_run {a : Agent} (hvalid : a.config.validate = .ok (.ok ())) {clock : Clock}
    {names : Link.Table} {failsAt : Option Nat} {setup : Setup}
    (hsetup : a.setup clock names failsAt = .ok (.ok setup)) {now : Instant}
    (hlate : ¬ setup.FitsAt now) :
    ∃ acts t, (opening setup 0 now).run acts = some t ∧ t.pipeline.now = now ∧
      (t.pipeline.endings = [(.cache, .failed)] ∨ t.pipeline.endings = [(.deduper, .failed)]) := by
  obtain ⟨-, -, -, -, htimeout, hbuffer⟩ := Config.validate_eq_ok_iff.1 hvalid
  obtain ⟨kind, mode, expiry, hdedup, rfl⟩ := setup_eq_ok_iff.1 hsetup
  obtain ⟨room, hroom⟩ : ∃ room, a.config.bufferLength.toNat = room + 1 :=
    Nat.exists_eq_succ_of_ne_zero fun hzero => hbuffer (UInt64.toNat_inj.1 hzero)
  by_cases htimer : now + a.config.cacheActiveTimeout.nanos < Instant.limit
  · cases kind with
    | none => exact absurd ⟨htimer, .inl rfl⟩ hlate
    | firstCome =>
      have hover : ¬ now + expiry.nanos < Instant.limit := fun h => hlate ⟨htimer, .inr h⟩
      refine ⟨toDeduper, ?_⟩
      rw [opening, toDeduper, setupWith, hroom]
      refine Trace.exists_run_cons rfl ?_
      refine Trace.exists_run_cons rfl ?_
      refine Trace.exists_run_cons (startTimer_of_fits rfl rfl htimeout htimer) ?_
      refine Trace.exists_run_cons (read_of_record rfl (Nat.le_refl now) rfl rfl rfl) ?_
      refine Trace.exists_run_cons rfl ?_
      refine Trace.exists_run_cons
        (insert_of_mem rfl rfl rfl (Cache.insert_empty _ _ _ _ _)) ?_
      refine Trace.exists_run_cons rfl ?_
      refine Trace.exists_run_cons rfl ?_
      refine Trace.exists_run_cons
        (dedup_of_error rfl rfl (Deduper.dedup_empty_overflows mode hover _ _)) ?_
      exact ⟨_, rfl, rfl, .inr rfl⟩
  · refine ⟨[.stage .startTimer], ?_⟩
    refine Trace.exists_run_cons (startTimer_overflows rfl rfl htimer) ?_
    exact ⟨_, rfl, rfl, .inl rfl⟩

/-- With accepted settings no stage but the export stage fails in any run up to some
uptime, just if the active timeout can be added to that uptime, and an ownership
as well if duplicates are looked for. -/
theorem onlyExportFails_iff_fitsAt {a : Agent} (hvalid : a.config.validate = .ok (.ok ()))
    (clock : Clock) (names : Link.Table) (failsAt : Option Nat) :
    ∃ setup, a.setup clock names failsAt = .ok (.ok setup) ∧ ∀ uptime : Instant,
      ((∀ (pace : Nat) (now : Instant) (acts : List Act) (t : Trace),
        (opening setup pace now).run acts = some t → t.pipeline.now ≤ uptime →
        t.pipeline.OnlyExportFails) ↔ a.config.FitsAt uptime) := by
  obtain ⟨-, ⟨⟨kind, mode, expiry⟩, hdedup⟩, -, -, htimeout, -⟩ := Config.validate_eq_ok_iff.1 hvalid
  have hsetup : a.setup clock names failsAt = .ok (.ok _) :=
    setup_eq_ok_iff.2 ⟨_, _, _, hdedup, rfl⟩
  refine ⟨_, hsetup, fun uptime => ?_⟩
  rw [← setup_fitsAt_iff hsetup]
  constructor
  · intro hsafe
    apply Classical.byContradiction
    intro hlate
    obtain ⟨acts, t, hrun, hnow, hfailed⟩ := exists_failing_run hvalid hsetup hlate
    have honly := hsafe 0 uptime acts t hrun (Nat.le_of_eq hnow)
    rcases hfailed with hfailed | hfailed
    · have hexport := honly (.cache, .failed) (by rw [hfailed]; exact List.mem_singleton_self _) rfl
      cases hexport
    · have hexport := honly (.deduper, .failed) (by rw [hfailed]; exact List.mem_singleton_self _) rfl
      cases hexport
  · intro hfits pace now acts t hrun hnow
    exact Trace.onlyExportFails_of_run htimeout (.empty _ _ _ _) hrun (hfits.mono hnow)

/-- An agent that looks for duplicates, with durations of its own. -/
def lasting (timeout : Duration) (expiry : Option Duration) : Agent where
  config := { Config.default with
    exportKind := "tcp"
    targetHost := "collector"
    targetPort := 9999
    cacheActiveTimeout := timeout
    deduper := "first-come"
    deduperExpiry := expiry }
  ip := .v4 ⟨⟨[192, 168, 1, 16], rfl⟩⟩

/-- Forty bits of seconds after zero, more than thirty thousand years. -/
def longUptime : Instant := 0x10000000000 * nanosPerSecond

/-- With the default durations everything fits for long. With an active timeout of half
the longest duration nothing fits, not even at zero. -/
theorem onlyExportFails_iff_fitsAt_lasting :
    (lasting (.ofSeconds 5) none).config.validate = .ok (.ok ()) ∧
    (lasting .halfLongest none).config.validate = .ok (.ok ()) ∧
    (∃ setup, (lasting (.ofSeconds 5) none).setup ⟨0⟩ [] none = .ok (.ok setup) ∧
      ∀ (pace : Nat) (now : Instant) (acts : List Act) (t : Trace),
        (opening setup pace now).run acts = some t → t.pipeline.now ≤ longUptime →
        t.pipeline.OnlyExportFails) ∧
    (∃ setup, (lasting .halfLongest none).setup ⟨0⟩ [] none = .ok (.ok setup) ∧
      ¬ ∀ (pace : Nat) (now : Instant) (acts : List Act) (t : Trace),
        (opening setup pace now).run acts = some t → t.pipeline.now ≤ 0 →
        t.pipeline.OnlyExportFails) := by
  refine ⟨rfl, rfl, ?_, ?_⟩
  · obtain ⟨setup, hsetup, hsafe⟩ :=
      onlyExportFails_iff_fitsAt (a := lasting (.ofSeconds 5) none) rfl ⟨0⟩ [] none
    exact ⟨setup, hsetup, (hsafe longUptime).2 ⟨by decide, .inr (by decide)⟩⟩
  · obtain ⟨setup, hsetup, hsafe⟩ :=
      onlyExportFails_iff_fitsAt (a := lasting .halfLongest none) rfl ⟨0⟩ [] none
    refine ⟨setup, hsetup, fun hruns => ?_⟩
    obtain ⟨htimeout, -⟩ := (hsafe 0).1 hruns
    exact absurd htimeout (by decide)

/-- Validation passes an active timeout with which the cache fails at its start, and an
expiry with which the deduper fails at its first record. -/
theorem not_onlyExportFails_lasting :
    (lasting .halfLongest none).config.validate = .ok (.ok ()) ∧
    (∃ setup acts t, (lasting .halfLongest none).setup ⟨0⟩ [] none = .ok (.ok setup) ∧
      (opening setup 0 0).run acts = some t ∧ t.pipeline.now ≤ longUptime ∧
      t.pipeline.endings = [(.cache, .failed)]) ∧
    (lasting (.ofSeconds 5) (some .longest)).config.validate = .ok (.ok ()) ∧
    (∃ setup acts t, (lasting (.ofSeconds 5) (some .longest)).setup ⟨0⟩ [] none = .ok (.ok setup) ∧
      (opening setup 0 0).run acts = some t ∧ t.pipeline.now ≤ longUptime ∧
      t.pipeline.endings = [(.deduper, .failed)]) :=
  ⟨rfl, ⟨_, [.stage .startTimer], _, rfl, rfl, by decide, rfl⟩,
    rfl, ⟨_, toDeduper, _, rfl, rfl, by decide, rfl⟩⟩

end Agent

end Flowmeter
