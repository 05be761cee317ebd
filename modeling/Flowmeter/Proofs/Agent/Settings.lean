-- SUMMARY: What settings that pass validation promise, and the deduper that they ask for.
import Flowmeter.Agent.Run
import Flowmeter.Proofs.Time.Overflow

/-!
# Accepted settings

Settings that pass validation can be read by those who come later, and their
active timeout can be doubled. Where it cannot, validation is broken off, unless
there is something to report before it gets there.
-/

namespace Flowmeter

theorem Duration.double_eq_ok_iff {d twice : Duration} :
    d.double = .ok twice ↔ twice.nanos = 2 * d.nanos := by
  unfold double ofNanos?
  by_cases hfits : 2 * d.nanos < UInt64.size * nanosPerSecond
  · simp only [dif_pos hfits]
    constructor
    · intro h
      cases h
      rfl
    · intro h
      cases twice
      cases h
      rfl
  · simp only [dif_neg hfits]
    constructor
    · intro h
      cases h
    · intro h
      exact absurd (h ▸ twice.lt_limit) hfits

theorem Duration.double_eq_error_iff {d : Duration} {cause : TimeOverflow} :
    d.double = .error cause ↔
      cause = .multiplyDuration ∧ UInt64.size * nanosPerSecond ≤ 2 * d.nanos := by
  unfold double ofNanos?
  by_cases hfits : 2 * d.nanos < UInt64.size * nanosPerSecond
  · simp [hfits]
  · simp [hfits, Nat.not_lt.1 hfits, eq_comm]

namespace Config

variable {config : Config}

theorem dedup_eq_ok_iff {kind : Dedup.Kind} {mode : Dedup.Mode} {expiry : Duration} :
    config.dedup = .ok (.ok (kind, mode, expiry)) ↔
      Dedup.Kind.ofText? config.deduper = some kind ∧
      mode = .ofJustMark config.deduperJustMark ∧
      ∃ twice : Duration, twice.nanos = 2 * config.cacheActiveTimeout.nanos ∧
        expiry = config.deduperExpiry.getD twice := by
  simp only [← Duration.double_eq_ok_iff]
  unfold dedup
  cases Dedup.Kind.ofText? config.deduper with
  | none => simp [pure, Except.pure]
  | some kind' =>
    cases config.cacheActiveTimeout.double with
    | error cause => simp [bind, Except.bind]
    | ok twice => simp [bind, Except.bind, pure, Except.pure, eq_comm]

theorem dedup_eq_error_iff {cause : TimeOverflow} :
    config.dedup = .error cause ↔
      cause = .multiplyDuration ∧ (∃ kind, Dedup.Kind.ofText? config.deduper = some kind) ∧
      UInt64.size * nanosPerSecond ≤ 2 * config.cacheActiveTimeout.nanos := by
  unfold dedup
  cases Dedup.Kind.ofText? config.deduper with
  | none => simp [pure, Except.pure]
  | some kind =>
    cases hdouble : config.cacheActiveTimeout.double with
    | error cause' =>
      obtain ⟨rfl, hlong⟩ := Duration.double_eq_error_iff.1 hdouble
      simp [bind, Except.bind, hlong, eq_comm]
    | ok twice =>
      have hfits := Duration.double_eq_ok_iff.1 hdouble ▸ twice.lt_limit
      simp [bind, Except.bind, pure, Except.pure, hfits]

theorem checkSizes_eq_ok_iff :
    config.checkSizes = .ok () ↔
      config.cacheMaxFlows ≠ 0 ∧ config.cacheActiveTimeout ≠ .zero ∧ config.bufferLength ≠ 0 := by
  unfold checkSizes
  split
  · simp_all
  split
  · simp_all
  split <;> simp_all

/-- What comes out of validation if the active timeout can be doubled. -/
theorem validate_of_dedup {dedup : Except ConfigError (Dedup.Kind × Dedup.Mode × Duration)}
    (hdedup : config.dedup = .ok dedup) :
    config.validate = .ok (do
      let _ ← config.target
      let _ ← dedup
      let _ ← config.agentIpSource
      config.checkSizes) := by
  rw [validate, hdedup]
  cases config.target <;> rfl

/-- Validation passes when every reading succeeds and no size is zero. -/
theorem validate_eq_ok_iff :
    config.validate = .ok (.ok ()) ↔
      (∃ target, config.target = .ok target) ∧ (∃ dedup, config.dedup = .ok (.ok dedup)) ∧
      (∃ source, config.agentIpSource = .ok source) ∧
      config.cacheMaxFlows ≠ 0 ∧ config.cacheActiveTimeout ≠ .zero ∧ config.bufferLength ≠ 0 := by
  cases hdedup : config.dedup with
  | error cause =>
    rw [validate, hdedup]
    cases config.target <;> simp [bind, Except.bind, pure, Except.pure]
  | ok dedup =>
    rw [validate_of_dedup hdedup, Except.ok.injEq]
    simp only [bind_eq_ok, checkSizes_eq_ok_iff, Except.ok.injEq]
    constructor
    · rintro ⟨target, htarget, d, hd, source, hsource, hsizes⟩
      exact ⟨⟨target, htarget⟩, ⟨d, hd⟩, ⟨source, hsource⟩, hsizes⟩
    · rintro ⟨⟨target, htarget⟩, ⟨d, hd⟩, ⟨source, hsource⟩, hsizes⟩
      exact ⟨target, htarget, d, hd, source, hsource, hsizes⟩

/-- Validation is broken off when the export and the kind of deduplication can be read, but the
active timeout cannot be doubled. -/
theorem validate_eq_error_iff {cause : TimeOverflow} :
    config.validate = .error cause ↔
      cause = .multiplyDuration ∧ (∃ target, config.target = .ok target) ∧
      (∃ kind, Dedup.Kind.ofText? config.deduper = some kind) ∧
      UInt64.size * nanosPerSecond ≤ 2 * config.cacheActiveTimeout.nanos := by
  cases htarget : config.target with
  | error e =>
    rw [validate, htarget]
    simp [pure, Except.pure]
  | ok target =>
    have hbreaks : config.validate = .error cause ↔ config.dedup = .error cause := by
      rw [validate, htarget]
      cases config.dedup <;> simp [bind, Except.bind, pure, Except.pure]
    simp [hbreaks, dedup_eq_error_iff]

end Config

/-- An agent is set up around the deduper that its settings ask for. -/
theorem Agent.setup_eq_ok_iff {a : Agent} {clock : Clock} {names : Link.Table}
    {failsAt : Option Nat} {setup : Pipeline.Setup} :
    a.setup clock names failsAt = .ok (.ok setup) ↔
      ∃ kind mode expiry, a.config.dedup = .ok (.ok (kind, mode, expiry)) ∧
        setup = a.setupWith clock names failsAt (.empty kind mode expiry) := by
  rw [Agent.setup, bind_eq_ok]
  constructor
  · rintro ⟨dedup, hdedup, h⟩
    cases dedup with
    | error cause => cases h
    | ok d =>
      obtain rfl := Except.ok.inj (Except.ok.inj h)
      exact ⟨d.1, d.2.1, d.2.2, hdedup, rfl⟩
  · rintro ⟨kind, mode, expiry, hdedup, rfl⟩
    exact ⟨_, hdedup, rfl⟩

end Flowmeter
