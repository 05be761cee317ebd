-- SUMMARY: The states that a cache can get into, and in each of them the order of eviction as an index of the entries.
import Flowmeter.Proofs.Cache.Expiry
import Flowmeter.Proofs.Flow.Samples

/-!
# Reachable caches

Whatever is done to a cache, at whatever instants, its order lists the
creation and the flow of each entry once, and nothing else. So a cache that is
not empty has something to pop, and what an expiry takes off the order it
evicts.
-/

namespace Flowmeter

namespace Cache

/-- The states of a cache. An expiry may end after any number of entries, for it
breaks off where the time at which the next one is due overflows. -/
inductive Reachable (max : Nat) (timeout : Duration) (clock : Clock) : Cache → Prop where
  | empty : Reachable max timeout clock (.empty max timeout clock)
  | insert {c : Cache} (r : RawRecord) (now : Instant) :
      Reachable max timeout clock c → Reachable max timeout clock (c.insert r now).2
  | expire {c c' : Cache} {count : Nat} {now : Instant} {batch : Batch} :
      Reachable max timeout clock c → expireUpTo count c now = .ok (batch, c') →
      Reachable max timeout clock c'
  | drain {c : Cache} : Reachable max timeout clock c → Reachable max timeout clock c.drain.2

namespace Reachable

variable {max : Nat} {timeout : Duration} {clock : Clock} {c : Cache}

theorem wellFormed (h : Reachable max timeout clock c) : c.WellFormed := by
  induction h with
  | empty => exact empty_wellFormed max timeout clock
  | insert r now _ ih => exact ih.insert_wellFormed r now
  | expire _ heq ih => exact (ih.expireUpTo_pops heq).wellFormed ih
  | drain _ ih => exact ih.drain_wellFormed

theorem sameSettings (h : Reachable max timeout clock c) :
    SameSettings (.empty max timeout clock) c := by
  induction h with
  | empty => exact ⟨rfl, rfl, rfl⟩
  | insert r now hc ih => exact ih.trans (hc.wellFormed.sameSettings_insert r now)
  | expire hc heq ih => exact ih.trans (hc.wellFormed.expireUpTo_pops heq).sameSettings
  | drain _ ih => exact ih.trans ⟨rfl, rfl, rfl⟩

theorem capacity_eq (h : Reachable max timeout clock c) : c.capacity = Nat.max 1 max :=
  h.sameSettings.capacity_eq

end Reachable

/-! ## The order as an index -/

/-- The rank of an entry. -/
def rankOf (flow : FlowId × Entry) : Rank := ⟨flow.2.created, flow.1⟩

namespace WellFormed

variable {c : Cache}

/-- The order lists the ranks of the entries. Both are free of repetitions. -/
theorem order_perm (h : c.WellFormed) : c.order.Perm (c.entries.map rankOf) := by
  have hids : (c.entries.map rankOf).map Rank.id = c.entries.map Prod.fst := by
    simp [rankOf, Function.comp_def]
  have hnodup : (c.entries.map rankOf).Nodup :=
    List.Pairwise.of_map Rank.id (fun _ _ hne heq => hne (congrArg Rank.id heq))
      (hids ▸ h.ids_nodup : ((c.entries.map rankOf).map Rank.id).Nodup)
  apply (List.perm_ext_iff_of_nodup h.order_ascending.nodup hnodup).2
  intro r
  rw [h.mem_order_iff, List.mem_map]
  constructor
  · rintro ⟨e, hmem, hcreated⟩
    exact ⟨(r.id, e), hmem, by rw [rankOf, hcreated]⟩
  · rintro ⟨⟨id, e⟩, hmem, rfl⟩
    exact ⟨e, hmem, rfl⟩

theorem order_ids_nodup (h : c.WellFormed) : (c.order.map Rank.id).Nodup := by
  have hperm : (c.order.map Rank.id).Perm ((c.entries.map rankOf).map Rank.id) :=
    h.order_perm.map _
  apply hperm.nodup_iff.2
  rw [List.map_map]
  exact h.ids_nodup

/-- A cache that is not empty pops the entry with the least rank. -/
theorem pop_eq (h : c.WellFormed) (hempty : c.isEmpty = false) :
    ∃ first ranks x, c.order = first :: ranks ∧ c.recordOf? first = some x ∧
      c.pop = (some x, c.dropFirst first ranks) := by
  have hsize : 0 < c.size := by
    apply List.length_pos_iff.2
    intro hnil
    rw [isEmpty, hnil] at hempty
    cases hempty
  obtain ⟨first, ranks, horder⟩ := List.exists_cons_of_ne_nil (h.order_ne_nil hsize)
  obtain ⟨e, hfirst, -⟩ := h.find?_first horder
  refine ⟨first, ranks, _, horder, ?_, pop_cons horder hfirst⟩
  rw [recordOf?, hfirst]
  rfl

end WellFormed

/-- In each state of a cache the order consists of the creation and the flow of
each entry, with no flow in it twice, and there are no more entries than the
cache may hold. So a cache that is not empty pops the entry of the least rank,
and each rank that an expiry takes off, even one that breaks off, leaves as the
record of its entry. -/
theorem Reachable.order_indexes_entries {max : Nat} {timeout : Duration} {clock : Clock}
    {c : Cache} (h : Reachable max timeout clock c) :
    c.order.Perm (c.entries.map rankOf) ∧
    (∀ r : Rank, r ∈ c.order ↔ c.createdAt r.id = some r.created) ∧
    (c.order.map Rank.id).Nodup ∧
    c.size ≤ Nat.max 1 max ∧
    (c.isEmpty = false → ∃ first ranks x, c.order = first :: ranks ∧
      c.recordOf? first = some x ∧ c.pop = (some x, c.dropFirst first ranks)) ∧
    (∀ (count : Nat) (now : Instant) (batch : Batch) (c' : Cache),
      expireUpTo count c now = .ok (batch, c') →
      ∃ dropped, c.order = dropped ++ c'.order ∧ batch.map some = dropped.map c.recordOf?) := by
  have hc := h.wellFormed
  refine ⟨hc.order_perm, fun r => hc.createdAt_eq_some_iff.symm, hc.order_ids_nodup, ?_,
    hc.pop_eq, ?_⟩
  · rw [← h.capacity_eq]
    exact hc.size_le
  · intro count now batch c' heq
    obtain ⟨dropped, horder, hbatch, -, -⟩ := hc.expireUpTo_evicts heq
    exact ⟨dropped, horder, hbatch⟩

/-- A cache for two flows that got three on a clock that goes back. The second
flow is the oldest, so it had to leave for the third. -/
def threeFlows : Cache :=
  ((((empty 2 (.ofSeconds 5) ⟨0⟩).insert ⟨.tcpFrom 1 3, .ofPacket 60 5⟩ 20).2.insert
    ⟨.tcpFrom 2 3, .ofPacket 70 6⟩ 10).2.insert ⟨.tcpFrom 3 3, .ofPacket 80 7⟩ 15).2

theorem order_indexes_entries_threeFlows :
    Reachable 2 (.ofSeconds 5) ⟨0⟩ threeFlows ∧
    threeFlows.order = [⟨15, .tcpFrom 3 3⟩, ⟨20, .tcpFrom 1 3⟩] ∧
    threeFlows.order.Perm (threeFlows.entries.map rankOf) ∧
    (threeFlows.order.map Rank.id).Nodup ∧
    threeFlows.size ≤ 2 ∧
    (∀ (count : Nat) (now : Instant) (batch : Batch) (c' : Cache),
      expireUpTo count threeFlows now = .ok (batch, c') →
      ∃ dropped, threeFlows.order = dropped ++ c'.order ∧
        batch.map some = dropped.map threeFlows.recordOf?) := by
  have hreach : Reachable 2 (.ofSeconds 5) ⟨0⟩ threeFlows :=
    .insert _ _ (.insert _ _ (.insert _ _ .empty))
  obtain ⟨hperm, -, hnodup, hsize, -, hexpire⟩ := hreach.order_indexes_entries
  exact ⟨hreach, rfl, hperm, hnodup, hsize, hexpire⟩

end Cache

end Flowmeter
