-- SUMMARY: A batch leaves the cache with a record in it and with no flow twice, and what the other stages make of it is such a batch again.
import Flowmeter.Decorate
import Flowmeter.Proofs.Cache.Reachable
import Flowmeter.Proofs.Dedup.Frame
import Flowmeter.Proofs.Pipeline.Step

/-!
# Proper batches

The cache has four occasions to come forward with a batch: a sample that needs
room, a tick, a flush and the end of its input. Each time the records of the
batch are those of different entries, and a cache with nothing to say says
nothing. Deduplication only takes records out of a batch, or marks them, and
decoration leaves the flows as they are.
-/

namespace Flowmeter

/-- A batch with a record in it, and with no flow twice. -/
structure Batch.IsProper (batch : Batch) : Prop where
  ne_nil : batch ≠ []
  ids_nodup : (batch.map Record.id).Nodup

/-! ## What leaves the cache -/

namespace Cache

/-- The records that ranks lead to are of the flows of the ranks. -/
theorem map_id_eq_of_map_recordOf? {c : Cache} {batch : Batch} {ranks : List Rank}
    (h : batch.map some = ranks.map c.recordOf?) : batch.map Record.id = ranks.map Rank.id := by
  induction ranks generalizing batch with
  | nil => simp_all
  | cons r ranks ih =>
    cases batch with
    | nil => simp at h
    | cons x batch =>
      obtain ⟨hx, hbatch⟩ := List.cons.inj h
      rw [List.map_cons, List.map_cons, ih hbatch, id_of_recordOf? hx.symm]

namespace WellFormed

variable {c c' : Cache} {batch : Batch}

theorem ids_nodup_expire (h : c.WellFormed) {now : Instant}
    (heq : c.expire now = .ok (batch, c')) : (batch.map Record.id).Nodup := by
  obtain ⟨dropped, horder, hbatch, -, -⟩ := h.expireUpTo_evicts heq
  have hsub : (dropped.map Rank.id).Sublist (c.order.map Rank.id) := by
    rw [horder]
    exact (List.sublist_append_left _ _).map _
  rw [map_id_eq_of_map_recordOf? hbatch]
  exact h.order_ids_nodup.sublist hsub

theorem ids_nodup_drain (h : c.WellFormed) : (c.drain.1.map Record.id).Nodup := by
  have hids : c.drain.1.map Record.id = c.entries.map Prod.fst := by
    rw [drain, List.map_map]
    rfl
  rw [hids]
  exact h.ids_nodup

end WellFormed

end Cache

/-! ## What the other stages make of a batch -/

namespace Deduper

open Dedup

theorem map_id_output_sublist (mode : Mode) (j : Judgement) :
    ((j.output mode).map Record.id).Sublist [j.record.id] := by
  cases hdup : j.isDuplicate <;> cases mode <;> simp [Judgement.output, hdup]

/-- The flows of what is passed on are among those of the batch, in the same order. -/
theorem map_id_dedup_sublist {d d' : Deduper} {batch out : Batch} {now : Instant}
    (h : d.dedup batch now = .ok (out, d')) :
    (out.map Record.id).Sublist (batch.map Record.id) := by
  obtain ⟨judged, hjudge, rfl⟩ := dedup_eq_ok.1 h
  obtain ⟨rfl, -⟩ := judgeBatch_frame hjudge
  clear h hjudge
  induction judged with
  | nil => exact List.Sublist.slnil
  | cons j judged ih =>
    rw [List.flatMap_cons, List.map_append]
    exact (map_id_output_sublist d.mode j).append ih

end Deduper

namespace Batch.IsProper

variable {batch out : Batch}

theorem dedup (h : batch.IsProper) {d d' : Deduper} {now : Instant}
    (heq : d.dedup batch now = .ok (out, d')) (hne : out ≠ []) : out.IsProper where
  ne_nil := hne
  ids_nodup := h.ids_nodup.sublist (Deduper.map_id_dedup_sublist heq)

theorem decorateAll (h : batch.IsProper) (d : Decorator) : Batch.IsProper (d.decorateAll batch) where
  ne_nil := by simpa [Decorator.decorateAll] using h.ne_nil
  ids_nodup := by
    rw [Decorator.decorateAll, List.map_map]
    exact h.ids_nodup

end Batch.IsProper

/-! ## What a stage comes forward with -/

namespace Phase

variable {α : Type}

/-- What a stage holds after a step and did not hold before. -/
def gained : Phase α → Phase α → List α
  | .ready, after | .ended _, after => after.items
  | .holding _, _ | .parting _, _ => []

@[simp] theorem gained_ready (after : Phase α) : gained .ready after = after.items := rfl

@[simp] theorem gained_self (phase : Phase α) : gained phase phase = [] := by
  cases phase <;> rfl

@[simp] theorem gained_ended (before : Phase α) (e : Ending) : gained before (.ended e) = [] := by
  cases before <;> rfl

theorem gained_of_items {before : Phase α} {item : α} (h : before.items = [item])
    (after : Phase α) : gained before after = [] := by
  cases before with
  | ready => cases h
  | holding _ => rfl
  | parting _ => rfl
  | ended _ => cases h

/-- A batch is handed over unless it is empty. -/
theorem items_handOver (batch : Batch) :
    (handOver batch).items = [batch].filter (fun b => !b.isEmpty) := by
  cases batch <;> rfl

end Phase

namespace Pipeline

variable {p q : Pipeline}

theorem CacheStep.wellFormed (h : CacheStep p q) (hp : p.cache.WellFormed) :
    q.cache.WellFormed := by
  cases h with
  | insert => exact hp.insert_wellFormed _ _
  | tick _ _ _ hexpire => exact (hp.expire_pops hexpire).wellFormed hp
  | flush => exact hp.drain_wellFormed
  | finish => exact hp.drain_wellFormed
  | drain => exact hp.drain_wellFormed
  | _ => exact hp

/-- A batch that the cache comes forward with is proper. -/
theorem CacheStep.isProper_gained (h : CacheStep p q) (hp : p.cache.WellFormed) :
    ∀ batch ∈ Phase.gained p.caching q.caching, batch.IsProper := by
  have hproper : ∀ {out : Batch}, p.caching = .ready → (out.map Record.id).Nodup →
      ∀ batch ∈ Phase.gained p.caching (.handOver out), batch.IsProper := by
    intro out hready hids batch hbatch
    rw [hready, Phase.gained_ready, Phase.items_handOver, List.mem_filter] at hbatch
    obtain ⟨hbatch, hne⟩ := hbatch
    obtain rfl := List.mem_singleton.1 hbatch
    exact ⟨by simpa using hne, hids⟩
  cases h with
  | @insert due r queue hready =>
    apply hproper hready
    cases (p.cache.insert r (p.now + p.pace)).1 <;> simp
  | tick hready _ _ hexpire => exact hproper hready (hp.ids_nodup_expire hexpire)
  | flush hready => exact hproper hready hp.ids_nodup_drain
  | drain hready _ _ _ hne =>
    intro batch hbatch
    rw [hready, Phase.gained_ready, Phase.items_parting, List.mem_singleton] at hbatch
    subst hbatch
    exact ⟨hne, hp.ids_nodup_drain⟩
  | send hholding => simp [hholding, Phase.gained]
  | _ => simp [stop]

/-- What has to leave for a sample to come in leaves alone. -/
theorem caching_of_insert {r : RawRecord} {queue : List RawRecord} {x : Record}
    (h : p.insert = some q) (hqueue : p.raw.queue = r :: queue)
    (hevicted : (p.cache.insert r (p.now + p.pace)).1 = some x) :
    p.caching = .ready ∧ q.caching = .holding [x] := by
  unfold insert at h
  split at h
  · next r' raw hready _ hreceive =>
    obtain ⟨queue', hqueue', rfl⟩ := Channel.receive?_eq_some_iff.1 hreceive
    obtain ⟨rfl, -⟩ := List.cons.inj (hqueue.symm.trans hqueue')
    refine ⟨hready, ?_⟩
    simp only [Option.some.injEq] at h
    rw [← h, hevicted]
    rfl
  · cases h

end Pipeline

end Flowmeter
