-- SUMMARY: What samples merge to in closed form, in whatever order and grouping they are merged.
import Flowmeter.Proofs.Flow.Samples
import Mathlib.Algebra.GroupWithZero.Nat

/-!
# Merging samples

A merge of samples summarises them: sums held at the limit of their counter,
the first and the last of their times and the union of their flags. A summary
of some samples and a summary of others merge to a summary of both, and a
summary does not depend on the order of what it summarises. So the same comes
out however the samples are put in order and their partial merges are grouped.
Only the error number is not shared in this way: it is that of the first sample.
-/

namespace Flowmeter.Metrics

/-! ## Summaries -/

/-- `m` says of `samples` all that metrics can, leaving the error number aside. -/
structure Summarises (m : Metrics) (samples : List Metrics) : Prop where
  /-- A sum that is beyond the counter is reported as its largest value. -/
  packets : m.packets.toNat = min (samples.map (·.packets.toNat)).sum (2 ^ 32 - 1)
  bytes : m.bytes.toNat = min (samples.map (·.bytes.toNat)).sum (2 ^ 64 - 1)
  start_mem : m.start ∈ samples.map start
  start_le : ∀ s ∈ samples, m.start ≤ s.start
  finish_mem : m.finish ∈ samples.map finish
  le_finish : ∀ s ∈ samples, s.finish ≤ m.finish
  /-- A flag is set if a sample has it set. -/
  flags : ∀ i, m.flags.toNat.testBit i = samples.any (·.flags.toNat.testBit i)

variable {a b m first : Metrics} {xs ys later : List Metrics}

theorem max_eq_or (s t : UInt64) : max s t = s ∨ max s t = t := by
  simp only [max]
  split
  · exact .inr rfl
  · exact .inl rfl

theorem le_max (s t : UInt64) : s ≤ max s t ∧ t ≤ max s t := by
  simp only [UInt64.le_iff_toNat_le, max_toNat]
  omega

theorem summarises_singleton (m : Metrics) : Summarises m [m] where
  packets := by
    have hlt := m.packets.toNat_lt
    simp only [List.map_singleton, List.sum_singleton]
    omega
  bytes := by
    have hlt := m.bytes.toNat_lt
    simp only [List.map_singleton, List.sum_singleton]
    omega
  start_mem := List.mem_singleton_self _
  start_le s hs := by
    obtain rfl := List.mem_singleton.1 hs
    exact UInt64.le_refl _
  finish_mem := List.mem_singleton_self _
  le_finish s hs := by
    obtain rfl := List.mem_singleton.1 hs
    exact UInt64.le_refl _
  flags i := by simp

namespace Summarises

theorem merge (ha : Summarises a xs) (hb : Summarises b ys) :
    Summarises (a.merge b) (xs ++ ys) where
  -- A part that has reached the limit keeps the whole there.
  packets := by
    simp only [Metrics.merge, addPackets_toNat, ha.packets, hb.packets, List.map_append,
      List.sum_append_nat, UInt32.size]
    omega
  bytes := by
    simp only [Metrics.merge, addBytes_toNat, ha.bytes, hb.bytes, List.map_append,
      List.sum_append_nat, UInt64.size]
    omega
  start_mem := by
    have hmin : (a.merge b).start = a.start ∨ (a.merge b).start = b.start := Std.min_eq_or
    rw [List.map_append, List.mem_append]
    rcases hmin with hmin | hmin <;> rw [hmin]
    · exact .inl ha.start_mem
    · exact .inr hb.start_mem
  start_le s hs := by
    have hle : (a.merge b).start ≤ a.start ∧ (a.merge b).start ≤ b.start :=
      ⟨Std.min_le_left, Std.min_le_right⟩
    rcases List.mem_append.1 hs with hs | hs
    · exact UInt64.le_trans hle.1 (ha.start_le s hs)
    · exact UInt64.le_trans hle.2 (hb.start_le s hs)
  finish_mem := by
    have hmax : (a.merge b).finish = a.finish ∨ (a.merge b).finish = b.finish := max_eq_or _ _
    rw [List.map_append, List.mem_append]
    rcases hmax with hmax | hmax <;> rw [hmax]
    · exact .inl ha.finish_mem
    · exact .inr hb.finish_mem
  le_finish s hs := by
    have hle : a.finish ≤ (a.merge b).finish ∧ b.finish ≤ (a.merge b).finish := le_max _ _
    rcases List.mem_append.1 hs with hs | hs
    · exact UInt64.le_trans (ha.le_finish s hs) hle.1
    · exact UInt64.le_trans (hb.le_finish s hs) hle.2
  flags i := by
    simp only [Metrics.merge, UInt16.toNat_or, Nat.testBit_or, ha.flags, hb.flags, List.any_append]

theorem mergeAll (ha : Summarises a xs) : Summarises (mergeAll a later) (xs ++ later) := by
  induction later generalizing a xs with
  | nil => simpa [Metrics.mergeAll] using ha
  | cons m later ih => simpa [Metrics.mergeAll] using ih (ha.merge (summarises_singleton m))

theorem perm (ha : Summarises a xs) (h : xs.Perm ys) : Summarises a ys where
  packets := by rw [ha.packets, (h.map _).sum_nat]
  bytes := by rw [ha.bytes, (h.map _).sum_nat]
  start_mem := (h.map _).mem_iff.1 ha.start_mem
  start_le s hs := ha.start_le s (h.mem_iff.2 hs)
  finish_mem := (h.map _).mem_iff.1 ha.finish_mem
  le_finish s hs := ha.le_finish s (h.mem_iff.2 hs)
  flags i := by rw [ha.flags, h.any_eq]

/-- Nothing but the error number is left open by a summary. -/
theorem unique (ha : Summarises a xs) (hb : Summarises b xs) : { a with errno := b.errno } = b := by
  have hpackets : a.packets = b.packets :=
    UInt32.toNat_inj.1 (ha.packets.trans hb.packets.symm)
  have hbytes : a.bytes = b.bytes := UInt64.toNat_inj.1 (ha.bytes.trans hb.bytes.symm)
  have hstart : a.start = b.start := by
    obtain ⟨s, hs, hsa⟩ := List.mem_map.1 ha.start_mem
    obtain ⟨t, ht, htb⟩ := List.mem_map.1 hb.start_mem
    exact UInt64.le_antisymm (htb ▸ ha.start_le t ht) (hsa ▸ hb.start_le s hs)
  have hfinish : a.finish = b.finish := by
    obtain ⟨s, hs, hsa⟩ := List.mem_map.1 ha.finish_mem
    obtain ⟨t, ht, htb⟩ := List.mem_map.1 hb.finish_mem
    exact UInt64.le_antisymm (hsa ▸ hb.le_finish s hs) (htb ▸ ha.le_finish t ht)
  have hflags : a.flags = b.flags :=
    UInt16.toNat_inj.1 (Nat.eq_of_testBit_eq fun i => (ha.flags i).trans (hb.flags i).symm)
  cases b
  simp_all

/-- Samples that begin before they end merge to one that does. -/
theorem start_le_finish (ha : Summarises a xs) (h : ∀ s ∈ xs, s.start ≤ s.finish) :
    a.start ≤ a.finish := by
  obtain ⟨s, hs, hsa⟩ := List.mem_map.1 ha.start_mem
  exact UInt64.le_trans (hsa ▸ h s hs) (ha.le_finish s hs)

end Summarises

theorem errno_mergeAll : (mergeAll first later).errno = first.errno := by
  induction later generalizing first with
  | nil => rfl
  | cons m later ih => exact ih

/-! ## Groupings -/

/-- Samples in some order, merged part by part. -/
inductive Grouping where
  | sample (m : Metrics)
  | join (left right : Grouping)

namespace Grouping

def samples : Grouping → List Metrics
  | .sample m => [m]
  | .join left right => left.samples ++ right.samples

def merged : Grouping → Metrics
  | .sample m => m
  | .join left right => left.merged.merge right.merged

theorem summarises_merged (g : Grouping) : Summarises g.merged g.samples := by
  induction g with
  | sample m => exact summarises_singleton m
  | join left right ihleft ihright => exact ihleft.merge ihright

end Grouping

/-! ## The merge in closed form -/

/-- The merge of a first sample and later ones has the sum of all packets and of all bytes,
each held at the largest value of its counter, the first start, the last end, the flags that
any sample has, and the error number of the first sample. However the samples are arranged and
their partial merges grouped, all but the error number comes out the same. If no sample ends
before it starts, neither does the merge. -/
theorem mergeAll_closed_form (first : Metrics) (later : List Metrics) :
    Summarises (mergeAll first later) (first :: later) ∧
    (mergeAll first later).errno = first.errno ∧
    (∀ g : Grouping, g.samples.Perm (first :: later) →
      { g.merged with errno := first.errno } = mergeAll first later) ∧
    ((∀ s ∈ first :: later, s.start ≤ s.finish) →
      (mergeAll first later).start ≤ (mergeAll first later).finish) := by
  have hall : Summarises (mergeAll first later) (first :: later) :=
    (summarises_singleton first).mergeAll
  refine ⟨hall, errno_mergeAll, fun g hg => ?_, hall.start_le_finish⟩
  rw [← (g.summarises_merged.perm hg).unique hall, errno_mergeAll]

/-- A sample that has counted all the packets it can. -/
def exhausted : Metrics := ⟨4294967295, 20, 50, 60, 0x01, 7⟩

def early : Metrics := ⟨1, 24, 40, 55, 0x10, 0⟩

def late : Metrics := ⟨4, 1, 45, 90, 0x01, 0⟩

/-- The last sample first, and merged with what the others merge to. -/
def lastFirst : Grouping := .join (.sample late) (.join (.sample early) (.sample exhausted))

theorem mergeAll_closed_form_exhausted :
    lastFirst.samples.Perm [exhausted, early, late] ∧
      { lastFirst.merged with errno := 7 } = mergeAll exhausted [early, late] ∧
      (∀ s ∈ [exhausted, early, late], s.start ≤ s.finish) ∧
      (mergeAll exhausted [early, late]).start ≤ (mergeAll exhausted [early, late]).finish ∧
      mergeAll exhausted [early, late] = ⟨4294967295, 45, 40, 90, 0x11, 7⟩ := by
  obtain ⟨-, -, hgrouping, htimes⟩ := mergeAll_closed_form exhausted [early, late]
  have hperm : lastFirst.samples.Perm [exhausted, early, late] := by decide
  have hordered : ∀ s ∈ [exhausted, early, late], s.start ≤ s.finish := by decide
  exact ⟨hperm, hgrouping lastFirst hperm, hordered, htimes hordered, rfl⟩

end Flowmeter.Metrics
