-- SUMMARY: Whatever its settings and the order of events, an agent passes on proper batches only, and exports them in the order of its cache.
import Flowmeter.Proofs.Agent.Settings
import Flowmeter.Proofs.Pipeline.Passage

/-!
# The batches of an agent

A batch that an agent exports has a record in it and no flow twice. It is what
the deduper and then the decorator make of a batch of the cache, and the batches
come out in the order in which the cache has come forward with them. A record
that has to leave the cache for another is in a batch of its own.
-/

namespace Flowmeter

namespace Agent

open Dedup Pipeline

/-- A pipeline before anything has happened to it. -/
def opening (setup : Setup) (pace : Nat) (now : Instant) : Trace :=
  .start (Pipeline.start { setup with pace } now)

/-- In every state that the stages of an agent reach, whatever acts in which order,
the batches in the channels and those given to the exporter are proper; a sample
that puts a record out of the cache puts it into a batch of its own; and what was
exported is a prefix of what the deduper has left of the first batches of the
cache, decorated. -/
theorem run_passes {a : Agent} {clock : Clock} {names : Link.Table} {failsAt : Option Nat}
    {setup : Setup} (hsetup : a.setup clock names failsAt = .ok (.ok setup)) {pace : Nat}
    {now : Instant} {acts : List Act} {t : Trace}
    (hrun : (opening setup pace now).run acts = some t) :
    (∀ batch ∈ t.pipeline.evicted.queue ++ t.pipeline.deduped.queue ++ t.pipeline.decorated.queue,
      batch.IsProper) ∧
    (∀ batch ∈ (opening setup pace now).given acts, batch.IsProper) ∧
    (∀ (t' : Trace) (r : RawRecord) (queue : List RawRecord) (x : Record),
      t.next (.stage .insert) = some t' → t.pipeline.raw.queue = r :: queue →
      (t.pipeline.cache.insert r (t.pipeline.now + t.pipeline.pace)).1 = some x →
      t'.pipeline.caching = .holding [x] ∧
      (opening setup pace now).emitted (acts ++ [.stage .insert])
        = (opening setup pace now).emitted acts ++ [[x]]) ∧
    t.pipeline.exporter.batches <+: (opening setup pace now).given acts ∧
    ∃ (feeds : List Feed) (outputs : List Batch),
      feeds.map Feed.batch ++ t.pipeline.evicted.queue <+: (opening setup pace now).emitted acts ∧
      Ordered feeds ∧ (∀ f ∈ feeds, f.now ≤ t.pipeline.now) ∧
      dedupAll setup.deduper feeds = .ok (outputs, t.pipeline.deduper) ∧
      (opening setup pace now).given acts <+:
        (outputs.filter fun b => !b.isEmpty).map setup.decorator.decorateAll := by
  have hcache : (opening setup pace now).pipeline.cache.WellFormed := by
    obtain ⟨kind, mode, expiry, -, rfl⟩ := setup_eq_ok_iff.1 hsetup
    exact Cache.empty_wellFormed _ _ _
  obtain ⟨s, hs, hemitted, hgiven⟩ :=
    Passes.run hrun (.start { setup with pace } now)
  rw [List.nil_append] at hemitted hgiven
  obtain ⟨hqueues, hproper⟩ :=
    hs.isProper (hemitted ▸ Trace.isProper_emitted hrun hcache)
  refine ⟨hqueues, hgiven ▸ hproper, ?_, hgiven ▸ hs.exports, s.judged, s.outputs,
    hemitted ▸ hs.evicted.received_prefix, hs.ordered, hs.judged_le, hs.judges, ?_⟩
  · intro t' r queue x hnext hqueue hevicted
    obtain ⟨hready, hholding⟩ := caching_of_insert (Trace.apply_of_next hnext) hqueue hevicted
    refine ⟨hholding, ?_⟩
    rw [Trace.emitted, Trace.noted_append_singleton hrun hnext, hready, hholding]
    rfl
  · rw [← hgiven]
    exact (List.prefix_append _ _).trans hs.given_prefix

/-- An agent whose cache has room for one flow. -/
def cramped : Agent where
  config := { Config.default with
    exportKind := "tcp"
    targetHost := "collector"
    targetPort := 9999
    cacheMaxFlows := 1 }
  ip := .v4 ⟨⟨[192, 168, 1, 15], rfl⟩⟩

/-- Packets of two flows arrive, and the first is in the cache when the second gets there. -/
def toPressure : List Act :=
  [.arrive (.ok (RawRecord.encode ⟨.tcpFrom 1 3, .ofPacket 60 5⟩)),
    .arrive (.ok (RawRecord.encode ⟨.tcpFrom 2 3, .ofPacket 70 6⟩)),
    .stage .startTimer, .stage .read, .stage .sendRaw, .stage .insert, .stage .read,
    .stage .sendRaw]

/-- The second packet goes into the cache, and what it puts out is exported. -/
def fromPressure : List Act :=
  [.stage .insert, .stage .sendEvicted, .stage .dedup, .stage .sendDeduped, .stage .decorate,
    .stage .sendDecorated, .stage .export]

/-- The record of the first packet leaves alone, and is what the exporter is given. -/
theorem run_passes_fromPressure :
    ∃ setup t t' x y, cramped.setup ⟨0⟩ [] none = .ok (.ok setup) ∧
      (opening setup 1000 0).run toPressure = some t ∧
      t.pipeline.raw.queue = [⟨.tcpFrom 2 3, .ofPacket 70 6⟩] ∧
      (opening setup 1000 0).emitted (toPressure ++ [.stage .insert]) = [[x]] ∧
      (opening setup 1000 0).run (toPressure ++ fromPressure) = some t' ∧
      t'.pipeline.exporter.batches = [[y]] ∧
      (opening setup 1000 0).given (toPressure ++ fromPressure) = [[y]] ∧
      (∀ batch ∈ [[y]], Batch.IsProper batch) ∧
      ∃ (feeds : List Feed) (outputs : List Batch),
        feeds.map Feed.batch ++ [] <+: [[x]] ∧
        dedupAll setup.deduper feeds = .ok (outputs, t'.pipeline.deduper) ∧
        [[y]] <+: (outputs.filter fun b => !b.isEmpty).map setup.decorator.decorateAll := by
  have hsetup : cramped.setup ⟨0⟩ [] none = .ok (.ok _) := rfl
  obtain ⟨-, -, hpressure, -⟩ := @run_passes _ _ _ _ _ hsetup 1000 0 toPressure _ rfl
  obtain ⟨-, hproper, -, -, feeds, outputs, hfeeds, -, -, hdedup, hgiven⟩ :=
    @run_passes _ _ _ _ _ hsetup 1000 0 (toPressure ++ fromPressure) _ rfl
  refine ⟨_, _, _, _, _, hsetup, rfl, rfl, (hpressure _ _ [] _ rfl rfl rfl).2, rfl, rfl, rfl,
    hproper, feeds, outputs, hfeeds, hdedup, hgiven⟩

end Agent

end Flowmeter
