-- SUMMARY: The pipeline loses and repeats no record: what it has exported and what is on its way account for all that was sent.
import Flowmeter.Agent.Run
import Flowmeter.Proofs.Cache.Conservation
import Flowmeter.Proofs.Dedup.Frame
import Flowmeter.Proofs.Pipeline.Reading

/-!
# Conservation in the pipeline

The raw records of a flow that the cache has taken are cut into runs, of which
each was merged into one record: first those that were exported, then those in
the channels and stages on the way, the nearest to the exporter first, and last
the live entry of the cache. Behind the cache records move on in batches, and
as long as duplicates are not dropped nothing is taken out of a batch or added
to one.
-/

namespace Flowmeter

/-! ## Batches keep their records -/

namespace Deduper

open Dedup

/-- The deduper passes on all records, though it may mark some. -/
def KeepsAll (d : Deduper) : Prop := d.kind = .none ∨ d.mode = .mark

theorem raws_output {mode : Mode} {judged : List Judgement}
    (h : ∀ j ∈ judged, mode = .mark ∨ j.isDuplicate = false) :
    Batch.raws (judged.flatMap (Judgement.output mode)) = Batch.raws (judged.map Judgement.record) := by
  induction judged with
  | nil => rfl
  | cons j judged ih =>
    have hone : Batch.raws (j.output mode) = [j.record.raw] := by
      rcases h j List.mem_cons_self with rfl | hj
      · cases hdup : j.isDuplicate <;> simp [Judgement.output, hdup] <;> rfl
      · simp only [Judgement.output, hj]
        rfl
    rw [List.flatMap_cons, Batch.raws_append, hone, ih fun k hk => h k (List.mem_cons_of_mem j hk)]
    rfl

theorem KeepsAll.dedup {d d' : Deduper} (h : d.KeepsAll) {batch out : Batch} {now : Instant}
    (heq : d.dedup batch now = .ok (out, d')) : out.raws = batch.raws ∧ d'.KeepsAll := by
  obtain ⟨judged, hjudge, rfl⟩ := dedup_eq_ok.1 heq
  obtain ⟨hrecords, m, rfl⟩ := judgeBatch_frame hjudge
  have hall : ∀ j ∈ judged, d.mode = .mark ∨ j.isDuplicate = false := by
    rcases h with hnone | hmark
    · simp only [judgeBatch, hnone] at hjudge
      obtain ⟨rfl, -⟩ := Prod.mk.inj (Except.ok.inj hjudge)
      intro j hj
      obtain ⟨r, -, rfl⟩ := List.mem_map.1 hj
      exact .inr rfl
    · exact fun _ _ => .inl hmark
  exact ⟨by rw [raws_output hall, hrecords], h⟩

end Deduper

theorem Decorator.raws_decorateAll (d : Decorator) (batch : Batch) :
    (d.decorateAll batch).raws = batch.raws := by
  simp only [Batch.raws, decorateAll, List.map_map]
  rfl

theorem Phase.raws_handOver (batch : Batch) :
    (handOver batch).items.flatMap Batch.raws = batch.raws := by
  unfold handOver
  split
  · next hempty => rw [List.isEmpty_iff.1 hempty]; rfl
  · simp

namespace Pipeline

open RawRecord

variable {p q : Pipeline} {sent : List RawRecord}

/-! ## On the way -/

/-- The batches that have left the cache, the first one in front. -/
def batches (p : Pipeline) : List Batch :=
  p.exporter.batches ++ p.decorated.queue ++ p.decorating.items ++ p.deduped.queue
    ++ p.deduping.items ++ p.evicted.queue ++ p.caching.items

/-- What the records in the batches say, apart from what the stages behind the cache add. -/
def reports (p : Pipeline) : List RawRecord := p.batches.flatMap Batch.raws

/-- What has left the cache and what is in it account for the records it has
taken; all others that were sent are on their way to it. -/
structure Conserves (p : Pipeline) (sent : List RawRecord) : Prop where
  cache : p.cache.WellFormed
  keepsAll : p.deduper.KeepsAll
  accounts : ∃ taken, sent = taken ++ p.raw.queue ∧
    ∀ id, Accounts (metricsOf id p.reports ++ p.cache.live id) (metricsOf id taken)

namespace Conserves

/-- The cache releases a batch of what is in it. -/
theorem release (hp : p.Conserves sent) (batch : Batch) (hraw : q.raw.queue = p.raw.queue)
    (hcache : q.cache.WellFormed) (hkeepsAll : q.deduper.KeepsAll)
    (hrelease : ∀ id, metricsOf id batch.raws ++ q.cache.live id = p.cache.live id)
    (hreports : q.reports = p.reports ++ batch.raws) : q.Conserves sent := by
  obtain ⟨taken, hsent, haccounts⟩ := hp.accounts
  refine ⟨hcache, hkeepsAll, taken, by rw [hsent, hraw], fun id => ?_⟩
  rw [hreports, metricsOf_append, List.append_assoc, hrelease]
  exact haccounts id

/-- Batches move on. -/
theorem move (hp : p.Conserves sent) (hraw : q.raw.queue = p.raw.queue) (hcache : q.cache = p.cache)
    (hkeepsAll : q.deduper.KeepsAll) (hreports : q.reports = p.reports) : q.Conserves sent := by
  refine hp.release [] hraw (hcache ▸ hp.cache) hkeepsAll (fun id => ?_) ?_
  · rw [hcache]
    rfl
  · rw [hreports]
    exact (List.append_nil _).symm

theorem start {setup : Setup} (hcache : setup.cache.WellFormed)
    (hlive : ∀ id, setup.cache.live id = []) (hkeepsAll : setup.deduper.KeepsAll) (now : Instant) :
    (Pipeline.start setup now).Conserves [] where
  cache := hcache
  keepsAll := hkeepsAll
  accounts := by
    have hitems : ∀ stage, (if stage ∈ setup.stages then .ready else .ended .finished :
        Phase Batch).items = [] := by
      intro stage
      split <;> rfl
    refine ⟨[], rfl, fun id => ?_⟩
    simp [Pipeline.start, reports, batches, hitems, Channel.empty, hlive, Accounts.nil]

end Conserves

theorem IntakeStep.conserves {sentNow : List RawRecord} (h : IntakeStep p sentNow q)
    (hwired : p.Wired) (hp : p.Conserves sent) : q.Conserves (sent ++ sentNow) := by
  cases h with
  | send hitems =>
    obtain ⟨taken, hsent, haccounts⟩ := hp.accounts
    refine ⟨hp.cache, hp.keepsAll, taken, ?_, haccounts⟩
    rw [hsent, List.append_assoc]
    rfl
  | refuse hitems hcut =>
    exact absurd hcut (hwired.raw.not_isCut (Phase.hasEnded_of_items hitems))
  | finish => rw [List.append_nil]; exact { hp with }
  | readClosed => rw [List.append_nil]; exact { hp with }
  | readFailed => rw [List.append_nil]; exact { hp with }
  | readMalformed => rw [List.append_nil]; exact { hp with }
  | readRecord => rw [List.append_nil]; exact { hp with }

theorem CacheStep.conserves (h : CacheStep p q) (hwired : p.Wired) (hq : q.Undisturbed)
    (hp : p.Conserves sent) : q.Conserves sent := by
  have hdrain := fun id => hp.cache.metricsOf_drain id
  cases h with
  | startTimer => exact { hp with }
  | failTimer => exact absurd hq not_undisturbed_of_failed
  | @insert due r queue hready _ hqueue =>
    -- The cache takes one more record, so this is no mere release.
    obtain ⟨taken, hsent, haccounts⟩ := hp.accounts
    refine ⟨hp.cache.insert_wellFormed _ _, hp.keepsAll, taken ++ [r], by simp [hsent, hqueue],
      fun id => ?_⟩
    have hinsert := hp.cache.accounts_insert r (p.now + p.pace) (haccounts id)
    simpa [reports, batches, Phase.raws_handOver, hready] using hinsert
  | skipTicks => exact { hp with }
  | @tick due batch cache hready _ _ hexpire =>
    have hpops := hp.cache.expire_pops hexpire
    refine hp.release batch rfl (hpops.wellFormed hp.cache) hp.keepsAll
      (fun id => hpops.metricsOf_append_live id) ?_
    simp [reports, batches, Phase.raws_handOver, hready]
  | failTick => exact absurd hq not_undisturbed_of_failed
  | flush hready =>
    refine hp.release p.cache.drain.1 rfl hp.cache.drain_wellFormed hp.keepsAll
      (fun id => ?_) ?_
    · rw [hdrain]; exact List.append_nil _
    · simp [reports, batches, Phase.raws_handOver, hready]
  | finish hready _ _ hqueue hempty =>
    refine hp.release p.cache.drain.1 hqueue.symm hp.cache.drain_wellFormed hp.keepsAll
      (fun id => ?_) ?_
    · rw [hdrain]; exact List.append_nil _
    · simp [reports, batches, stop, Channel.close, hready, hempty]
  | drain hready =>
    refine hp.release p.cache.drain.1 rfl hp.cache.drain_wellFormed hp.keepsAll
      (fun id => ?_) ?_
    · rw [hdrain]; exact List.append_nil _
    · simp [reports, batches, hready]
  | send hholding =>
    refine hp.move rfl rfl hp.keepsAll ?_
    simp [reports, batches, Channel.push, hholding]
  | part hparting =>
    -- With the cache its end of the channel goes away, but nothing is in it.
    have hqueue := (hwired.leaving (by rw [hparting]; rfl)).2.1
    refine hp.move hqueue.symm rfl hp.keepsAll ?_
    simp [reports, batches, Channel.push, stop, Channel.close, hparting]
  | refuse hitems hcut =>
    exact absurd hcut (hwired.evicted.not_isCut (Phase.hasEnded_of_items hitems))

theorem DeduperStep.conserves (h : DeduperStep p q) (hwired : p.Wired) (hq : q.Undisturbed)
    (hp : p.Conserves sent) : q.Conserves sent := by
  cases h with
  | judge hready hqueue hdedup =>
    obtain ⟨hraws, hkeepsAll⟩ := hp.keepsAll.dedup hdedup
    refine hp.move rfl rfl hkeepsAll ?_
    simp [reports, batches, Phase.raws_handOver, hready, hqueue, hraws]
  | fail => exact absurd hq not_undisturbed_of_failed
  | finish hready hqueue =>
    refine hp.move rfl rfl hp.keepsAll ?_
    simp [reports, batches, stop, Channel.close, Channel.drop, hready, hqueue]
  | send hitems =>
    refine hp.move rfl rfl hp.keepsAll ?_
    simp [reports, batches, Channel.push, hitems]
  | refuse hitems hcut =>
    exact absurd hcut (hwired.deduped.not_isCut (Phase.hasEnded_of_items hitems))

theorem DecoratorStep.conserves (h : DecoratorStep p q) (hwired : p.Wired)
    (hp : p.Conserves sent) : q.Conserves sent := by
  cases h with
  | decorate hready hqueue =>
    refine hp.move rfl rfl hp.keepsAll ?_
    simp [reports, batches, hready, hqueue, Decorator.raws_decorateAll]
  | finish hready hqueue =>
    refine hp.move rfl rfl hp.keepsAll ?_
    simp [reports, batches, stop, Channel.close, Channel.drop, hready, hqueue]
  | send hitems =>
    refine hp.move rfl rfl hp.keepsAll ?_
    simp [reports, batches, Channel.push, hitems]
  | refuse hitems hcut =>
    exact absurd hcut (hwired.decorated.not_isCut (Phase.hasEnded_of_items hitems))

theorem ExportStep.conserves (h : ExportStep p q) (hq : q.Undisturbed) (hp : p.Conserves sent) :
    q.Conserves sent := by
  cases h with
  | «export» _ hqueue =>
    refine hp.move rfl rfl hp.keepsAll ?_
    simp [reports, batches, hqueue]
  | fail => exact absurd hq not_undisturbed_of_failed
  | finish _ hqueue =>
    refine hp.move rfl rfl hp.keepsAll ?_
    simp [reports, batches, stop, Channel.drop, hqueue]

theorem WorldStep.conserves {arrivedNow : List (Except Intake.ReadError Bytes)}
    (h : WorldStep p arrivedNow q) (hp : p.Conserves sent) : q.Conserves sent := by
  cases h <;> exact { hp with }

theorem Step.conserves {arrivedNow : List (Except Intake.ReadError Bytes)}
    {sentNow : List RawRecord} (h : Step p arrivedNow sentNow q) (hwired : p.Wired)
    (hq : q.Undisturbed) (hp : p.Conserves sent) : q.Conserves (sent ++ sentNow) := by
  cases h with
  | intake h => exact h.conserves hwired hp
  | cache h => rw [List.append_nil]; exact h.conserves hwired hq hp
  | deduper h => rw [List.append_nil]; exact h.conserves hwired hq hp
  | decorator h => rw [List.append_nil]; exact h.conserves hwired hp
  | «export» h => rw [List.append_nil]; exact h.conserves hq hp
  | quit hcancelled => exact (hq.not_quit hcancelled).elim
  | world h => rw [List.append_nil]; exact h.conserves hp

/-! ## Whole runs -/

/-- What every step of an undisturbed run keeps. -/
structure Trace.Accounted (t : Trace) : Prop where
  wired : t.pipeline.Wired
  reads : Reads t.pipeline t.arrived t.sent
  conserves : t.pipeline.Conserves t.sent

theorem Trace.accounted_of_run (setup : Setup) {now : Instant} {acts : List Act} {t : Trace}
    (hcomplete : setup.IsComplete) (hstart : (Pipeline.start setup now).Conserves [])
    (h : (Trace.start (Pipeline.start setup now)).run acts = some t)
    (ht : t.pipeline.Undisturbed) : t.Accounted := by
  refine run_induction (P := fun t => t.pipeline.Undisturbed → t.Accounted) h ?_ ?_ ht
  · exact fun _ => ⟨start_wired hcomplete now, Reads.start hcomplete now, hstart⟩
  · intro t t' arrived sent hstep harrived hsent hbefore ht'
    -- The invariant holds before the step because nothing had disturbed the run then either.
    obtain ⟨hwired, hreads, hconserves⟩ := hbefore (hstep.undisturbed ht')
    refine ⟨hstep.wired hwired ht', ?_, ?_⟩
    · rw [harrived, hsent]
      exact hstep.reads hwired ht' hreads
    · rw [hsent]
      exact hstep.conserves hwired ht' hconserves

theorem metricsOf_reports (p : Pipeline) (id : FlowId) :
    metricsOf id p.reports = (p.batches.flatten.filter (·.id = id)).map Record.metrics := by
  have hreports : p.reports = p.batches.flatten.map Record.raw := by
    rw [reports, List.flatMap_def, List.map_flatten]
    rfl
  rw [hreports, metricsOf, List.filter_map, List.map_map]
  rfl

end Pipeline

end Flowmeter
