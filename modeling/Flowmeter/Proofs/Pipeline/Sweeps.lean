-- SUMMARY: A cache that is swept once in every timeout, and the sweep at which a sample leaves it.
import Flowmeter.Proofs.Cache.Expiry
import Flowmeter.Proofs.Dedup.Run

/-!
# Sweeps

The cache of the pipeline is swept at the multiples of its timeout. An entry is
not due before it has lived for the timeout. Unless it was created at the very
instant of a sweep, it therefore stays at the next one and leaves at the one
after that.

The samples that come in meanwhile leave with the entry. A sample that comes in
between two sweeps finds an entry that the first of them has left, or gets a
new one, and therefore leaves at the second or at the one after that.
-/

namespace Flowmeter

namespace Cache

open Dedup

/-- A sample, and the instant at which the cache gets it. -/
structure Arrival where
  sample : RawRecord
  time : Instant

/-- What the deduper gets of a sweep, which is nothing if nothing has expired. -/
def swept (batch : Batch) (now : Instant) : List Feed :=
  if batch.isEmpty then [] else [⟨batch, now⟩]

theorem mem_swept_iff {batch : Batch} {now : Instant} {f : Feed} :
    f ∈ swept batch now ↔ batch ≠ [] ∧ f = ⟨batch, now⟩ := by
  unfold swept
  cases batch <;> simp

/-- What comes after a sweep is of a later one. -/
theorem exists_later_of_swept {batch : Batch} {now bound : Instant} {feeds : List Feed}
    (hbound : now < bound) (h : ∃ f ∈ swept batch now ++ feeds, bound ≤ f.now) :
    ∃ f ∈ feeds, bound ≤ f.now := by
  obtain ⟨f, hf, hnow⟩ := h
  refine ⟨f, (List.mem_append.1 hf).resolve_left fun hhead => ?_, hnow⟩
  obtain ⟨-, rfl⟩ := mem_swept_iff.1 hhead
  exact Nat.not_le.2 hbound hnow

/-- From after `k` sweeps on the cache gets `arrivals` and hands over `feeds`.
There is always room for the samples, so none leaves but at a sweep. -/
inductive Sweeps (timeout : Duration) : Nat → Cache → List Arrival → List Feed → Prop where
  | done {k : Nat} {c : Cache} : Sweeps timeout k c [] []
  | take {k : Nat} {c c' : Cache} {a : Arrival} {arrivals : List Arrival} {feeds : List Feed} :
      k * timeout.nanos ≤ a.time → a.time ≤ (k + 1) * timeout.nanos →
      c.insert a.sample a.time = (none, c') → Sweeps timeout k c' arrivals feeds →
      Sweeps timeout k c (a :: arrivals) feeds
  | sweep {k : Nat} {c c' : Cache} {batch : Batch} {arrivals : List Arrival} {feeds : List Feed} :
      c.expire ((k + 1) * timeout.nanos) = .ok (batch, c') →
      Sweeps timeout (k + 1) c' arrivals feeds →
      Sweeps timeout k c arrivals (swept batch ((k + 1) * timeout.nanos) ++ feeds)

/-! ## When samples and feeds come -/

namespace Sweeps

variable {timeout : Duration} {k : Nat} {c : Cache} {arrivals : List Arrival} {feeds : List Feed}

theorem now_eq (h : Sweeps timeout k c arrivals feeds) :
    ∀ f ∈ feeds, ∃ n, k < n ∧ f.now = n * timeout.nanos := by
  induction h with
  | done => simp
  | take _ _ _ _ ih => exact ih
  | @sweep k _ _ _ _ _ _ _ ih =>
    intro f hf
    rcases List.mem_append.1 hf with hf | hf
    · obtain ⟨-, rfl⟩ := mem_swept_iff.1 hf
      exact ⟨k + 1, Nat.lt_succ_self k, rfl⟩
    · obtain ⟨n, hn, hnow⟩ := ih f hf
      exact ⟨n, Nat.lt_of_succ_lt hn, hnow⟩

theorem le_time (h : Sweeps timeout k c arrivals feeds) :
    ∀ a ∈ arrivals, k * timeout.nanos ≤ a.time := by
  induction h with
  | done => simp
  | take hlow _ _ _ ih => exact List.forall_mem_cons.2 ⟨hlow, ih⟩
  | @sweep k _ _ _ _ _ _ _ ih =>
    intro a ha
    exact Nat.le_trans (Nat.mul_le_mul_right _ (Nat.le_succ k)) (ih a ha)

theorem ordered (h : Sweeps timeout k c arrivals feeds) : Ordered feeds := by
  induction h with
  | done => exact .nil
  | take _ _ _ _ ih => exact ih
  | @sweep k _ _ batch _ feeds _ hlater ih =>
    have hhead : Ordered (swept batch ((k + 1) * timeout.nanos)) := by
      unfold Ordered swept
      split
      · exact .nil
      · exact List.pairwise_singleton _ _
    refine List.pairwise_append.2 ⟨hhead, ih, fun f hf g hg => ?_⟩
    obtain ⟨-, rfl⟩ := mem_swept_iff.1 hf
    obtain ⟨n, hn, hnow⟩ := hlater.now_eq g hg
    rw [hnow]
    exact Nat.mul_le_mul_right _ (Nat.le_of_lt hn)

end Sweeps

/-! ## When an entry leaves -/

/-- After `k` sweeps no entry is due that the latest sweep should have found, and
none is from after the next one. -/
structure SweptTo (timeout : Duration) (k : Nat) (c : Cache) : Prop where
  wellFormed : c.WellFormed
  timeout_eq : c.timeout = timeout
  created : ∀ id t, c.createdAt id = some t →
    k * timeout.nanos < t + timeout.nanos ∧ t ≤ (k + 1) * timeout.nanos

namespace SweptTo

variable {timeout : Duration} {k : Nat} {c c' : Cache}

theorem empty (max : Nat) (timeout : Duration) (clock : Clock) :
    SweptTo timeout 0 (.empty max timeout clock) where
  wellFormed := empty_wellFormed max timeout clock
  timeout_eq := rfl
  created id t hcreated := by
    rw [createdAt_empty] at hcreated
    cases hcreated

theorem insert (h : SweptTo timeout k c) (hpos : 0 < timeout.nanos) {a : Arrival}
    (hlow : k * timeout.nanos ≤ a.time) (hhigh : a.time ≤ (k + 1) * timeout.nanos)
    (heq : c.insert a.sample a.time = (none, c')) : SweptTo timeout k c' where
  wellFormed := by
    have hinsert := h.wellFormed.insert_wellFormed a.sample a.time
    rwa [heq] at hinsert
  timeout_eq := by
    have hinsert := h.wellFormed.sameSettings_insert a.sample a.time
    rw [heq] at hinsert
    exact hinsert.timeout_eq.trans h.timeout_eq
  created id t hcreated := by
    rw [h.wellFormed.createdAt_insert heq] at hcreated
    cases hold : c.createdAt id with
    | some t' =>
      rw [hold, Option.some_or] at hcreated
      cases hcreated
      exact h.created id t hold
    | none =>
      rw [hold, Option.none_or] at hcreated
      split at hcreated
      · cases hcreated
        exact ⟨Nat.lt_of_le_of_lt hlow (Nat.lt_add_of_pos_right hpos), hhigh⟩
      · cases hcreated

theorem expire (h : SweptTo timeout k c) {batch : Batch}
    (heq : c.expire ((k + 1) * timeout.nanos) = .ok (batch, c')) : SweptTo timeout (k + 1) c' where
  wellFormed := (h.wellFormed.expire_pops heq).wellFormed h.wellFormed
  timeout_eq := (h.wellFormed.expire_pops heq).sameSettings.timeout_eq.trans h.timeout_eq
  created id t hcreated := by
    obtain ⟨hold, hdue⟩ := (h.wellFormed.createdAt_expire heq).1 hcreated
    rw [IsDue, h.timeout_eq] at hdue
    refine ⟨Nat.not_le.1 hdue, Nat.le_trans (h.created id t hold).2 ?_⟩
    exact Nat.mul_le_mul_right _ (Nat.le_succ _)

end SweptTo

namespace Sweeps

variable {timeout : Duration} {k : Nat} {c : Cache} {arrivals : List Arrival} {feeds : List Feed}

/-- An entry leaves at the first sweep at which it is due, if the run gets so far. -/
theorem exists_leaving (h : Sweeps timeout k c arrivals feeds) (hc : SweptTo timeout k c)
    (hpos : 0 < timeout.nanos) {id : FlowId} {t : Instant} (hcreated : c.createdAt id = some t)
    {n : Nat} (hkn : k ≤ n) (hearly : n * timeout.nanos < t + timeout.nanos)
    (hdue : t + timeout.nanos ≤ (n + 1) * timeout.nanos)
    (hlast : ∃ f ∈ feeds, (n + 1) * timeout.nanos ≤ f.now) :
    ∃ f ∈ feeds, f.now = (n + 1) * timeout.nanos ∧ ∃ x ∈ f.batch, x.id = id := by
  induction h with
  | done => simp at hlast
  | take hlow hhigh hinsert _ ih =>
    apply ih (hc.insert hpos hlow hhigh hinsert) _ hkn hlast
    rw [hc.wellFormed.createdAt_insert hinsert, hcreated, Option.some_or]
  | @sweep k c _ batch _ _ hexpire _ ih =>
    rcases Nat.eq_or_lt_of_le hkn with rfl | hlater
    · have hnow : c.IsDue ((k + 1) * timeout.nanos) t := by
        rw [IsDue, hc.timeout_eq]
        exact hdue
      obtain ⟨x, hx, hid⟩ := hc.wellFormed.exists_mem_expire hexpire hcreated hnow
      have hfeed : ⟨batch, (k + 1) * timeout.nanos⟩ ∈ swept batch ((k + 1) * timeout.nanos) :=
        mem_swept_iff.2 ⟨List.ne_nil_of_mem hx, rfl⟩
      exact ⟨_, List.mem_append_left _ hfeed, rfl, x, hx, hid⟩
    · have hsweep : (k + 1) * timeout.nanos ≤ n * timeout.nanos := Nat.mul_le_mul_right _ hlater
      have hnext : (k + 1) * timeout.nanos < (n + 1) * timeout.nanos := by
        rw [Nat.succ_mul n]
        exact Nat.lt_of_le_of_lt hsweep (Nat.lt_add_of_pos_right hpos)
      have hkept : ¬ c.IsDue ((k + 1) * timeout.nanos) t := by
        rw [IsDue, hc.timeout_eq]
        exact Nat.not_le.2 (Nat.lt_of_le_of_lt hsweep hearly)
      obtain ⟨f, hf, hleaves⟩ := ih (hc.expire hexpire)
        ((hc.wellFormed.createdAt_expire hexpire).2 ⟨hcreated, hkept⟩) hlater
        (exists_later_of_swept hnext hlast)
      exact ⟨f, List.mem_append_right _ hf, hleaves⟩

/-- An entry leaves at the next sweep or at the one after it. -/
theorem exists_leaving_soon (h : Sweeps timeout k c arrivals feeds) (hc : SweptTo timeout k c)
    (hpos : 0 < timeout.nanos) {id : FlowId} {t : Instant} (hcreated : c.createdAt id = some t)
    (hlast : ∃ f ∈ feeds, (k + 2) * timeout.nanos ≤ f.now) :
    ∃ f ∈ feeds, k * timeout.nanos < f.now ∧ f.now ≤ (k + 2) * timeout.nanos ∧
      ∃ x ∈ f.batch, x.id = id := by
  obtain ⟨hearly, hrecent⟩ := hc.created id t hcreated
  have hnext : ∀ n : Nat, (n + 1) * timeout.nanos = n * timeout.nanos + timeout.nanos :=
    fun n => Nat.succ_mul n _
  -- Sweep `n + 1` is the first at which the entry is due.
  obtain ⟨n, hkn, hn, hnearly, hndue⟩ : ∃ n, k ≤ n ∧ n ≤ k + 1 ∧
      n * timeout.nanos < t + timeout.nanos ∧ t + timeout.nanos ≤ (n + 1) * timeout.nanos := by
    rcases Nat.lt_or_ge (k * timeout.nanos) t with hnew | hold
    · refine ⟨k + 1, Nat.le_succ k, Nat.le_refl _, ?_, ?_⟩
      · rw [hnext]
        exact Nat.add_lt_add_right hnew _
      · rw [hnext]
        exact Nat.add_le_add_right hrecent _
    · refine ⟨k, Nat.le_refl k, Nat.le_succ k, hearly, ?_⟩
      rw [hnext]
      exact Nat.add_le_add_right hold _
  have hnlast : ∃ f ∈ feeds, (n + 1) * timeout.nanos ≤ f.now := by
    obtain ⟨f, hf, hnow⟩ := hlast
    exact ⟨f, hf, Nat.le_trans (Nat.mul_le_mul_right _ (Nat.succ_le_succ hn)) hnow⟩
  obtain ⟨f, hf, hnow, hleaves⟩ := h.exists_leaving hc hpos hcreated hkn hnearly hndue hnlast
  refine ⟨f, hf, ?_, ?_, hleaves⟩
  · rw [hnow]
    exact Nat.mul_lt_mul_of_pos_right (Nat.lt_succ_of_le hkn) hpos
  · rw [hnow]
    exact Nat.mul_le_mul_right _ (Nat.succ_le_succ hn)

/-- A sample that comes in between two sweeps leaves at the second of them or at the next one. -/
theorem exists_leaving_of_arrival (h : Sweeps timeout k c arrivals feeds)
    (hc : SweptTo timeout k c) (hpos : 0 < timeout.nanos) {a : Arrival} (ha : a ∈ arrivals)
    {n : Nat} (hafter : n * timeout.nanos < a.time) (hbefore : a.time < (n + 1) * timeout.nanos)
    (hlast : ∃ f ∈ feeds, (n + 2) * timeout.nanos ≤ f.now) :
    ∃ f ∈ feeds, n * timeout.nanos < f.now ∧ f.now ≤ (n + 2) * timeout.nanos ∧
      ∃ x ∈ f.batch, x.id = a.sample.id := by
  induction h with
  | done => cases ha
  | @take k c c' b arrivals feeds hlow hhigh hinsert hlater ih =>
    have hc' := hc.insert hpos hlow hhigh hinsert
    rcases List.mem_cons.1 ha with rfl | ha
    · -- The sample is between sweeps `k` and `k + 1`, so these are the two.
      have hkn : k < n + 1 := Nat.lt_of_mul_lt_mul_right (Nat.lt_of_le_of_lt hlow hbefore)
      have hnk : n < k + 1 := Nat.lt_of_mul_lt_mul_right (Nat.lt_of_lt_of_le hafter hhigh)
      obtain rfl : k = n := by omega
      have hentry : ∃ t, c'.createdAt a.sample.id = some t := by
        rw [hc.wellFormed.createdAt_insert hinsert, if_pos rfl]
        cases c.createdAt a.sample.id <;> simp
      obtain ⟨t, hcreated⟩ := hentry
      exact hlater.exists_leaving_soon hc' hpos hcreated hlast
    · exact ih hc' ha hlast
  | @sweep k c _ _ arrivals feeds hexpire hlater ih =>
    -- The sample is still to come, so the sweep that is asked for is not this one.
    have htime : (k + 1) * timeout.nanos < (n + 1) * timeout.nanos :=
      Nat.lt_of_le_of_lt (hlater.le_time a ha) hbefore
    have hnext : (k + 1) * timeout.nanos < (n + 2) * timeout.nanos :=
      Nat.lt_of_lt_of_le htime (Nat.mul_le_mul_right _ (Nat.le_succ _))
    obtain ⟨f, hf, hleaves⟩ := ih (hc.expire hexpire) ha (exists_later_of_swept hnext hlast)
    exact ⟨f, List.mem_append_right _ hf, hleaves⟩

end Sweeps

end Cache

end Flowmeter
