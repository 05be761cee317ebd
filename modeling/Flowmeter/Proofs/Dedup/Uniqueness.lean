-- SUMMARY: A deduper that drops duplicates passes on one record of a flow in a batch, unless ownerships end as they begin.
import Flowmeter.Proofs.Dedup.Ownership

/-!
# One record for each flow

Two records of a flow that are both let through and are not of one interface are
an expiry apart. In a batch all records are judged at one instant. So if the
records of a batch are distinct, and an ownership lasts for any time at all, no
two that are let through are of the same flow.

An ownership that lasts for no time is over when the next record of the batch is
judged, and then every record is let through.
-/

namespace Flowmeter

/-- The interface is all that a flow has beyond its logical flow. -/
theorem FlowId.eq_of_logical_eq {a b : FlowId} (hlogical : a.logical = b.logical)
    (hifIndex : a.ifIndex = b.ifIndex) : a = b := by
  cases a
  cases b
  simp_all [logical]

namespace Dedup

/-! ## Verdicts of one instant -/

namespace IsHistory

variable {expiry : Duration} {history : List Verdict}

/-- Wherever two records stand in the history, they keep their distance. -/
theorem pairwise_apart (h : IsHistory expiry history) :
    history.Pairwise fun v w => v.flow = w.flow → v.isDuplicate = false →
      w.isDuplicate = false → v.ifIndex ≠ w.ifIndex → v.expiresAt expiry ≤ w.arrived := by
  have hsuffix : ∀ before later, history = before ++ later →
      later.Pairwise fun v w => v.flow = w.flow → v.isDuplicate = false →
        w.isDuplicate = false → v.ifIndex ≠ w.ifIndex → v.expiresAt expiry ≤ w.arrived := by
    intro before later hsplit
    induction later generalizing before with
    | nil => exact .nil
    | cons v later ih =>
      refine .cons (fun w hw hflow hv hw' hne => ?_) (ih (before ++ [v]) (by simp [hsplit]))
      obtain ⟨mid, after, rfl⟩ := List.append_of_mem hw
      exact h.expiresAt_le_of_ne hsplit hflow hv hw' hne
  exact hsuffix [] history rfl

/-- Distinct records that are judged at one instant are of different flows, if they are let through. -/
theorem pairwise_flow_ne (h : IsHistory expiry history) (hexpiry : 0 < expiry.nanos)
    {batch : List Verdict} (hbatch : List.Sublist batch history) {now : Instant}
    (hnow : ∀ v ∈ batch, v.arrived = now) (hids : (batch.map (·.record.id)).Nodup) :
    batch.Pairwise fun v w => v.isDuplicate = false → w.isDuplicate = false → v.flow ≠ w.flow := by
  have hapart := h.pairwise_apart.sublist hbatch
  have hdistinct := List.pairwise_map.1 hids
  refine (hapart.and hdistinct).imp_of_mem fun {v w} hv hw hvw hvdup hwdup hflow => ?_
  obtain ⟨hapart, hne⟩ := hvw
  have hifIndex : v.ifIndex ≠ w.ifIndex := fun heq => hne (FlowId.eq_of_logical_eq hflow heq)
  have hlate := hapart hflow hvdup hwdup hifIndex
  rw [Verdict.expiresAt, hnow v hv, hnow w hw] at hlate
  exact absurd hlate (Nat.not_le.2 (Nat.lt_add_of_pos_right hexpiry))

end IsHistory

/-! ## What is passed on -/

theorem flatMap_output_drop_eq_filter (verdicts : List Verdict) :
    verdicts.flatMap (Verdict.output .drop)
      = (verdicts.filter (!·.isDuplicate)).map Verdict.record := by
  induction verdicts with
  | nil => rfl
  | cons v verdicts ih =>
    rw [List.flatMap_cons, ih]
    cases hdup : v.isDuplicate <;> simp [Verdict.output, Judgement.output, hdup]

end Dedup

open Dedup

namespace Deduper

/-- Whatever batches of distinct records come in as time goes on, no two records of a
batch that is passed on are of the same flow. -/
def PassesOnce (d : Deduper) : Prop :=
  ∀ (feeds : List Feed) (batches : List Batch) (d' : Deduper), Ordered feeds →
    (∀ f ∈ feeds, (f.batch.map Record.id).Nodup) → dedupAll d feeds = .ok (batches, d') →
    ∀ batch ∈ batches, (batch.map (·.id.logical)).Nodup

theorem passesOnce_of_pos {expiry : Duration} (hexpiry : 0 < expiry.nanos) :
    (Deduper.empty .firstCome .drop expiry).PassesOnce := by
  intro feeds batches d' hordered hdistinct hrun batch hbatch
  obtain ⟨verdicts, hverdicts, rfl⟩ := dedupAll_eq_ok.1 hrun
  obtain ⟨vs, hvs, rfl⟩ := List.mem_map.1 hbatch
  have hhistory := isHistory_of_judgeAll hordered hverdicts
  obtain ⟨f, hf, hrecords, hnow⟩ := exists_feed_of_judgeAll hverdicts hvs
  have hids : (vs.map (·.record.id)).Nodup := by
    have hsame : vs.map (·.record.id) = (vs.map Verdict.record).map Record.id := by
      rw [List.map_map]
      rfl
    rw [hsame, hrecords]
    exact hdistinct f hf
  have hne := hhistory.pairwise_flow_ne hexpiry (List.sublist_flatten_of_mem hvs) hnow hids
  change (List.map _ (List.flatMap (Verdict.output .drop) vs)).Nodup
  rw [flatMap_output_drop_eq_filter, List.map_map]
  refine List.pairwise_map.2 (List.pairwise_filter.2 (hne.imp fun {v w} hvw hv hw => ?_))
  exact hvw (by simpa using hv) (by simpa using hw)

/-- One flow on two interfaces, in one batch. -/
def twoInterfaces : List Feed := [⟨[recordFrom 1 3, recordFrom 1 4], 0⟩]

/-- The ownership of the first interface is over before the second one is judged. -/
theorem not_passesOnce_zero : ¬ (Deduper.empty .firstCome .drop .zero).PassesOnce := by
  intro honce
  have hordered : Ordered twoInterfaces := by simp [Ordered, twoInterfaces]
  have hdistinct : ∀ f ∈ twoInterfaces, (f.batch.map Record.id).Nodup := by
    intro f hf
    obtain rfl := List.mem_singleton.1 hf
    decide
  have hnodup := honce twoInterfaces [[recordFrom 1 3, recordFrom 1 4]] _ hordered hdistinct rfl
    _ (List.mem_singleton_self _)
  exact absurd hnodup (by decide)

/-- An ownership has to last, and no longer than a moment. -/
theorem passesOnce_iff {expiry : Duration} :
    (Deduper.empty .firstCome .drop expiry).PassesOnce ↔ expiry ≠ .zero := by
  constructor
  · rintro honce rfl
    exact not_passesOnce_zero honce
  · intro hne
    apply passesOnce_of_pos
    apply Nat.pos_of_ne_zero
    intro hzero
    apply hne
    cases expiry
    cases hzero
    rfl

end Deduper

end Flowmeter
