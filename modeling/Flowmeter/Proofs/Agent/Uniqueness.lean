-- SUMMARY: An agent that drops duplicates exports a flow once in a batch, but for the one expiry that validation should refuse.
import Flowmeter.Proofs.Agent.Settings
import Flowmeter.Proofs.Dedup.Uniqueness

/-!
# One record for each flow in a batch

An agent that drops duplicates is meant to hand no two records of a flow to its
exporter in one batch. The deduper that it sets up keeps to this just if the
settings do not say that ownerships last for no time. The default, two active
timeouts, is never zero, as no active timeout is; a value that is given is not
looked at.
-/

namespace Flowmeter

namespace Agent

theorem passesOnce_iff_of_validate {a : Agent} (hvalid : a.config.validate = .ok (.ok ()))
    (hkind : a.config.deduper = "first-come") (hdrop : a.config.deduperJustMark = false)
    (clock : Clock) (names : Link.Table) (failsAt : Option Nat) :
    ∃ setup, a.setup clock names failsAt = .ok (.ok setup) ∧
      (setup.deduper.PassesOnce ↔ a.config.deduperExpiry ≠ some .zero) := by
  obtain ⟨-, ⟨⟨kind, mode, expiry⟩, hdedup⟩, -, -, htimeout, -⟩ := Config.validate_eq_ok_iff.1 hvalid
  refine ⟨_, setup_eq_ok_iff.2 ⟨_, _, _, hdedup, rfl⟩, ?_⟩
  obtain ⟨hfirst, rfl, twice, htwice, rfl⟩ := Config.dedup_eq_ok_iff.1 hdedup
  rw [hkind] at hfirst
  cases Option.some.inj hfirst
  rw [hdrop]
  apply Deduper.passesOnce_iff.trans
  cases hexpiry : a.config.deduperExpiry with
  | some expiry => simp
  | none =>
    -- Twice a timeout that is not zero is not zero either.
    have hne : twice ≠ .zero := by
      rintro rfl
      apply htimeout
      cases htime : a.config.cacheActiveTimeout with
      | mk nanos hlimit =>
        rw [htime] at htwice
        have hzero : nanos = 0 := by
          change 0 = 2 * nanos at htwice
          omega
        subst hzero
        rfl
    simp [hne]

/-- An agent that drops duplicates, with an ownership that lasts for `expiry` if that is given. -/
def dropping (expiry : Option Duration) : Agent where
  config := { Config.default with
    exportKind := "tcp"
    targetHost := "collector"
    targetPort := 9999
    deduper := "first-come"
    deduperExpiry := expiry }
  ip := .v4 ⟨⟨[192, 168, 1, 14], rfl⟩⟩

/-- With the default expiry, or one of a nanosecond, no flow is exported twice in a batch. -/
theorem passesOnce_iff_of_validate_dropping :
    (dropping none).config.validate = .ok (.ok ()) ∧
    (dropping (some ⟨1, by decide⟩)).config.validate = .ok (.ok ()) ∧
    (∃ setup, (dropping none).setup ⟨0⟩ [] none = .ok (.ok setup) ∧ setup.deduper.PassesOnce) ∧
    (∃ setup, (dropping (some ⟨1, by decide⟩)).setup ⟨0⟩ [] none = .ok (.ok setup) ∧
      setup.deduper.PassesOnce) := by
  refine ⟨rfl, rfl, ?_, ?_⟩
  · obtain ⟨setup, hsetup, honce⟩ :=
      passesOnce_iff_of_validate (a := dropping none) rfl rfl rfl ⟨0⟩ [] none
    exact ⟨setup, hsetup, honce.2 (by decide)⟩
  · obtain ⟨setup, hsetup, honce⟩ :=
      passesOnce_iff_of_validate (a := dropping (some ⟨1, by decide⟩)) rfl rfl rfl ⟨0⟩ [] none
    exact ⟨setup, hsetup, honce.2 (by decide)⟩

/-- Validation passes an expiry of zero, and then a flow that two interfaces report is
exported twice in one batch. -/
theorem not_passesOnce_dropping_zero :
    (dropping (some .zero)).config.validate = .ok (.ok ()) ∧
    (dropping (some .zero)).config.deduper = "first-come" ∧
    (dropping (some .zero)).config.deduperJustMark = false ∧
    ∃ setup d, (dropping (some .zero)).setup ⟨0⟩ [] none = .ok (.ok setup) ∧
      Dedup.dedupAll setup.deduper [⟨[Dedup.recordFrom 1 3, Dedup.recordFrom 1 4], 0⟩]
        = .ok ([[Dedup.recordFrom 1 3, Dedup.recordFrom 1 4]], d) ∧
      (Dedup.recordFrom 1 3).id.logical = (Dedup.recordFrom 1 4).id.logical ∧
      ¬ setup.deduper.PassesOnce :=
  ⟨rfl, rfl, rfl, _, _, rfl, rfl, rfl, Deduper.not_passesOnce_zero⟩

end Agent

end Flowmeter
