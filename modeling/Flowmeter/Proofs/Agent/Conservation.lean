-- SUMMARY: Whatever order its stages act in, an agent exports every sample that it reads exactly once.
import Flowmeter.Proofs.Agent.Settings
import Flowmeter.Proofs.Pipeline.Conservation

/-!
# Conservation by the agent

An agent whose settings pass validation and do not have duplicates dropped
builds a pipeline that conserves samples. Every sample that the intake has sent
is in one record, or in the cache, or still before it; and once all stages have
ended, every sample that was read is in one exported record.
-/

namespace Flowmeter

namespace Agent

open Intake Pipeline RawRecord

/-! ## The pipeline of an agent -/

/-- No duplicate is dropped by these settings. -/
def KeepsAll (config : Config) : Prop :=
  config.deduper = "none" ∨ config.deduper = "first-come" ∧ config.deduperJustMark = true

theorem dedup_of_keepsAll {config : Config} (hvalid : config.validate = .ok (.ok ()))
    (hkeepsAll : KeepsAll config) :
    ∃ kind mode expiry, config.dedup = .ok (.ok (kind, mode, expiry)) ∧
      (Deduper.empty kind mode expiry).KeepsAll := by
  obtain ⟨-, ⟨⟨kind, mode, expiry⟩, hdedup⟩, -⟩ := Config.validate_eq_ok_iff.1 hvalid
  obtain ⟨hkind, hmode, -⟩ := Config.dedup_eq_ok_iff.1 hdedup
  refine ⟨kind, mode, expiry, hdedup, ?_⟩
  rcases hkeepsAll with hnone | ⟨-, hmark⟩
  · rw [hnone] at hkind
    exact .inl (Option.some.inj hkind).symm
  · rw [hmark] at hmode
    exact .inr hmode

theorem setup_of_keepsAll {a : Agent} (hvalid : a.config.validate = .ok (.ok ()))
    (hkeepsAll : KeepsAll a.config) (clock : Clock) (names : Link.Table) (failsAt : Option Nat) :
    ∃ setup, a.setup clock names failsAt = .ok (.ok setup) ∧ setup.IsComplete ∧
      ∀ pace now, (Pipeline.start { setup with pace } now).Conserves [] := by
  obtain ⟨kind, mode, expiry, hdedup, hkeeps⟩ := dedup_of_keepsAll hvalid hkeepsAll
  have hall : ∀ stage : Stage, stage ∈ [.intake, .cache, .deduper, .decorator, .export] := by
    intro stage
    cases stage <;> decide
  refine ⟨_, setup_eq_ok_iff.2 ⟨_, _, _, hdedup, rfl⟩, hall, fun pace now => ?_⟩
  exact .start (Cache.empty_wellFormed _ _ _) (Cache.live_empty _ _ _) hkeeps now

/-! ## Runs of an agent -/

/-- In every state that an undisturbed run of the stages reaches, whatever acts in
which order, the samples of a flow that were sent are cut into runs: all but the
last were merged into one record each, in the order in which the records are or
will be exported, and the last is in the cache, if it has not left; the rest has
not reached the cache. Once all stages have ended, each sample that was read is
in one exported record. -/
theorem run_conserves {a : Agent} (hvalid : a.config.validate = .ok (.ok ()))
    (hkeepsAll : KeepsAll a.config) (clock : Clock) (names : Link.Table) (failsAt : Option Nat) :
    ∃ setup, a.setup clock names failsAt = .ok (.ok setup) ∧
      ∀ (pace : Nat) (now : Instant) (acts : List Act) (t : Trace),
        (Trace.start (Pipeline.start { setup with pace } now)).run acts = some t →
        t.pipeline.Undisturbed →
        t.sent <+: recordsOf t.arrived ∧
        (∀ id, ∃ (left : List Samples) (last : Option Samples),
          metricsOf id t.sent = (left ++ last.toList).flatMap Samples.toList
            ++ metricsOf id t.pipeline.raw.queue ∧
          (t.pipeline.batches.flatten.filter (·.id = id)).map Record.metrics
            = left.map Samples.merged ∧
          (t.pipeline.cache.find? id).map Cache.Entry.metrics = last.map Samples.merged) ∧
        (t.pipeline.HasEnded →
          t.sent = recordsOf t.arrived ∧
          ∀ id, ∃ runs : List Samples,
            metricsOf id (recordsOf t.arrived) = runs.flatMap Samples.toList ∧
            (t.pipeline.exporter.batches.flatten.filter (·.id = id)).map Record.metrics
              = runs.map Samples.merged) := by
  obtain ⟨setup, hsetup, hcomplete, hstart⟩ := setup_of_keepsAll hvalid hkeepsAll clock names failsAt
  refine ⟨setup, hsetup, fun pace now acts t hrun ht => ?_⟩
  obtain ⟨hwired, hreads, hconserves⟩ :=
    Trace.accounted_of_run { setup with pace } hcomplete (hstart pace now) hrun ht
  obtain ⟨taken, hsent, haccounts⟩ := hconserves.accounts
  refine ⟨hreads.sent_prefix, fun id => ?_, fun hended => ?_⟩
  · obtain ⟨left, last, htaken, hleft, hlast⟩ := Cache.exists_left_last (haccounts id)
    refine ⟨left, last, ?_, ?_, hlast⟩
    · rw [hsent, metricsOf_append, htaken]
    · rw [← metricsOf_reports, hleft]
  · have hempty := hwired.isEmpty hended
    have hall : t.sent = recordsOf t.arrived := (hreads.ended hempty.intake).1.symm
    refine ⟨hall, fun id => ?_⟩
    have hlive : t.pipeline.cache.live id = [] := by
      simp [Cache.live, Cache.find?, hempty.entries]
    have hbatches : t.pipeline.batches = t.pipeline.exporter.batches := by
      simp [batches, hempty.caching, hempty.evicted, hempty.deduping, hempty.deduped,
        hempty.decorating, hempty.decorated]
    obtain ⟨runs, htaken, hreports⟩ := haccounts id
    refine ⟨runs, ?_, ?_⟩
    · rw [← hall, hsent, hempty.raw, List.append_nil, htaken]
    · rw [← hbatches, ← metricsOf_reports, ← hreports, hlive, List.append_nil]

/-- An agent that exports to a collector and marks duplicates. -/
def marking : Agent where
  config := { Config.default with
    exportKind := "tcp"
    targetHost := "collector"
    targetPort := 9999
    deduper := "first-come"
    deduperJustMark := true }
  ip := .v4 ⟨⟨[192, 168, 1, 13], rfl⟩⟩

/-- A packet arrives, the source closes, and the stages pass it on and end one by one. -/
def onePacket : List Act :=
  [.arrive (.ok (RawRecord.encode ⟨.tcpFrom 1 3, .ofPacket 60 5⟩)), .closeSource,
    .stage .startTimer, .stage .read, .stage .sendRaw, .stage .insert, .stage .read,
    .stage .drain, .stage .sendEvicted, .stage .dedup, .stage .sendDeduped, .stage .dedup,
    .stage .decorate, .stage .sendDecorated, .stage .decorate, .stage .export, .stage .export]

/-- The agent exports the packet, and nothing else. -/
theorem run_conserves_onePacket :
    ∃ setup t, marking.setup ⟨0⟩ [] none = .ok (.ok setup) ∧
      (Trace.start (Pipeline.start { setup with pace := 1000 } 0)).run onePacket = some t ∧
      t.pipeline.Undisturbed ∧ t.pipeline.HasEnded ∧
      t.sent = [⟨.tcpFrom 1 3, .ofPacket 60 5⟩] ∧
      t.sent = recordsOf t.arrived ∧
      ∀ id, ∃ runs : List Samples,
        metricsOf id (recordsOf t.arrived) = runs.flatMap Samples.toList ∧
        (t.pipeline.exporter.batches.flatten.filter (·.id = id)).map Record.metrics
          = runs.map Samples.merged := by
  obtain ⟨setup, hsetup, hruns⟩ := run_conserves (a := marking) rfl (.inr ⟨rfl, rfl⟩) ⟨0⟩ [] none
  have hconcrete : marking.setup ⟨0⟩ [] none = .ok (.ok _) := rfl
  obtain rfl := Except.ok.inj (Except.ok.inj (hconcrete.symm.trans hsetup))
  obtain ⟨-, -, hend⟩ := hruns 1000 0 onePacket _ rfl ⟨rfl, by decide⟩
  refine ⟨_, _, rfl, rfl, ⟨rfl, by decide⟩, ?_, rfl, hend ?_⟩
  · intro stage
    cases stage <;> rfl
  · intro stage
    cases stage <;> rfl

end Agent

end Flowmeter
