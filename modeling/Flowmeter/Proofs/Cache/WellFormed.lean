-- SUMMARY: The invariant that ties the order of eviction to the entries of a cache, and what each operation does to an entry.
import Flowmeter.Cache
import Flowmeter.Proofs.Lookup

/-!
# Well-formed caches

A cache keeps its flows twice, as entries and as ranks. It is well formed when
the ranks are exactly those of the entries, each once and in ascending order.
Then the least rank always leads to an entry, so nothing that is popped gets
lost. Every operation keeps a cache well formed.
-/

namespace Flowmeter

namespace Cache

open Lookup

/-! ## Ranks in ascending order -/

namespace Rank

/-- Each rank is below all that follow it. -/
def Ascending (ranks : List Rank) : Prop := ranks.Pairwise fun r s => compare r s = .lt

theorem mem_insert {r x : Rank} {ranks : List Rank} :
    x ∈ insert r ranks ↔ x = r ∨ x ∈ ranks := by
  induction ranks with
  | nil => simp [insert]
  | cons s ranks ih =>
    simp only [insert]
    split
    · simp
    · next heq =>
      obtain rfl := Std.LawfulEqOrd.eq_of_compare heq
      simp
    · simp only [List.mem_cons, ih]
      exact or_left_comm

theorem Ascending.insert {ranks : List Rank} (h : Ascending ranks) (r : Rank) :
    Ascending (Rank.insert r ranks) := by
  induction ranks with
  | nil => simp [Rank.insert, Ascending]
  | cons s ranks ih =>
    obtain ⟨hs, hranks⟩ := List.pairwise_cons.1 h
    simp only [Rank.insert]
    split
    · next hlt =>
      refine List.pairwise_cons.2 ⟨fun x hx => ?_, h⟩
      rcases List.mem_cons.1 hx with rfl | hx
      · exact hlt
      · exact Std.TransCmp.lt_trans hlt (hs x hx)
    · exact h
    · next hgt =>
      refine List.pairwise_cons.2 ⟨fun x hx => ?_, ih hranks⟩
      rcases mem_insert.1 hx with rfl | hx
      · exact Std.OrientedCmp.gt_iff_lt.1 hgt
      · exact hs x hx

theorem Ascending.nodup {ranks : List Rank} (h : Ascending ranks) : ranks.Nodup := by
  refine List.Pairwise.imp (fun {r s} hlt => ?_) h
  rintro rfl
  simp at hlt

end Rank

/-! ## The invariant -/

structure WellFormed (c : Cache) : Prop where
  capacity_pos : 1 ≤ c.capacity
  ids_nodup : (c.entries.map Prod.fst).Nodup
  order_ascending : Rank.Ascending c.order
  /-- The ranks are those of the entries. -/
  mem_order_iff : ∀ r : Rank, r ∈ c.order ↔ ∃ e : Entry, (r.id, e) ∈ c.entries ∧ e.created = r.created
  size_le : c.size ≤ c.capacity

theorem empty_wellFormed (max : Nat) (timeout : Duration) (clock : Clock) :
    (empty max timeout clock).WellFormed where
  capacity_pos := Nat.le_max_left 1 max
  ids_nodup := List.nodup_nil
  order_ascending := List.Pairwise.nil
  mem_order_iff r := by simp [empty]
  size_le := Nat.zero_le _

namespace WellFormed

variable {c : Cache}

theorem find?_eq_some_iff (h : c.WellFormed) {id : FlowId} {e : Entry} :
    c.find? id = some e ↔ (id, e) ∈ c.entries :=
  lookup_eq_some_iff_mem h.ids_nodup

/-- The least rank leads to an entry, created when the rank says. -/
theorem find?_first (h : c.WellFormed) {first : Rank} {ranks : List Rank}
    (horder : c.order = first :: ranks) :
    ∃ e, c.find? first.id = some e ∧ e.created = first.created := by
  obtain ⟨e, hmem, hcreated⟩ := (h.mem_order_iff first).1 (by simp [horder])
  exact ⟨e, h.find?_eq_some_iff.2 hmem, hcreated⟩

/-- No other rank is that of the flow with the least one. -/
theorem id_ne_first (h : c.WellFormed) {first r : Rank} {ranks : List Rank}
    (horder : c.order = first :: ranks) (hr : r ∈ ranks) : r.id ≠ first.id := by
  intro hid
  obtain ⟨e, hmem, hcreated⟩ := (h.mem_order_iff r).1 (by simp [horder, hr])
  obtain ⟨e', hmem', hcreated'⟩ := (h.mem_order_iff first).1 (by simp [horder])
  have hsame : e = e' := by
    have hfind := h.find?_eq_some_iff.2 hmem
    rw [hid, h.find?_eq_some_iff.2 hmem'] at hfind
    exact (Option.some.inj hfind).symm
  have heq : r = first := by
    cases r; cases first; simp_all
  have hnodup := h.order_ascending.nodup
  rw [horder, List.nodup_cons] at hnodup
  exact hnodup.1 (heq ▸ hr)

end WellFormed

/-! ## Popping -/

/-- What is left after the flow with the least rank has gone. -/
def dropFirst (c : Cache) (first : Rank) (ranks : List Rank) : Cache :=
  { c with order := ranks, entries := c.entries.filter (·.1 ≠ first.id) }

theorem pop_cons {c : Cache} {first : Rank} {ranks : List Rank} {e : Entry}
    (horder : c.order = first :: ranks) (hfind : c.find? first.id = some e) :
    c.pop = (some (Record.ofMetrics c.clock first.id e.metrics), c.dropFirst first ranks) := by
  simp only [pop, horder, hfind, dropFirst]

theorem find?_dropFirst (c : Cache) (first : Rank) (ranks : List Rank) (id : FlowId) :
    (c.dropFirst first ranks).find? id = if id = first.id then none else c.find? id :=
  lookup_filter_ne id first.id

theorem WellFormed.dropFirst {c : Cache} (h : c.WellFormed) {first : Rank} {ranks : List Rank}
    (horder : c.order = first :: ranks) : (c.dropFirst first ranks).WellFormed where
  capacity_pos := h.capacity_pos
  ids_nodup := h.ids_nodup.sublist (List.filter_sublist.map _)
  order_ascending := by
    have hasc := h.order_ascending
    rw [horder] at hasc
    exact (List.pairwise_cons.1 hasc).2
  mem_order_iff r := by
    have hiff := h.mem_order_iff r
    simp only [horder, List.mem_cons] at hiff
    simp only [Cache.dropFirst, List.mem_filter, decide_eq_true_eq]
    constructor
    · intro hr
      obtain ⟨e, hmem, hcreated⟩ := hiff.1 (.inr hr)
      exact ⟨e, ⟨hmem, by simpa using h.id_ne_first horder hr⟩, hcreated⟩
    · rintro ⟨e, ⟨hmem, hne⟩, hcreated⟩
      rcases hiff.2 ⟨e, hmem, hcreated⟩ with rfl | hr
      · simp at hne
      · exact hr
  size_le := Nat.le_trans (List.length_filter_le _ _) h.size_le

/-- Popping makes room for an entry. -/
theorem WellFormed.size_dropFirst_lt {c : Cache} (h : c.WellFormed) {first : Rank}
    {ranks : List Rank} (horder : c.order = first :: ranks) :
    (c.dropFirst first ranks).size < c.size := by
  obtain ⟨e, hfind, -⟩ := h.find?_first horder
  refine List.length_filter_lt_length_iff_exists.2 ⟨(first.id, e), h.find?_eq_some_iff.1 hfind, ?_⟩
  simp

/-! ## Inserting -/

theorem find?_mergeInto (c : Cache) (id id' : FlowId) (m : Metrics) :
    (c.mergeInto id m).find? id' =
      if id' = id then (c.find? id).map fun e => { e with metrics := e.metrics.merge m }
      else c.find? id' := by
  simp only [find?, mergeInto]
  induction c.entries with
  | nil => simp
  | cons x l ih =>
    obtain ⟨id₁, e₁⟩ := x
    by_cases h₁ : id₁ = id
    · subst h₁
      by_cases hid : id' = id₁
      · simp [hid]
      · simpa [lookup_cons_ite, hid] using ih
    · have h₁' : ¬ id = id₁ := fun heq => h₁ heq.symm
      by_cases hid : id' = id
      · subst hid
        simpa [lookup_cons_ite, h₁, h₁'] using ih
      · simp only [List.map_cons, if_neg h₁, lookup_cons_ite, ih, if_neg hid]

theorem WellFormed.mergeInto {c : Cache} (h : c.WellFormed) (id : FlowId) (m : Metrics) :
    (c.mergeInto id m).WellFormed := by
  have hids : (c.mergeInto id m).entries.map Prod.fst = c.entries.map Prod.fst := by
    simp only [Cache.mergeInto, List.map_map]
    refine List.map_congr_left fun x _ => ?_
    simp only [Function.comp]
    split <;> rfl
  have hnodup : ((c.mergeInto id m).entries.map Prod.fst).Nodup := hids ▸ h.ids_nodup
  refine ⟨h.capacity_pos, hnodup, h.order_ascending, fun r => ?_, ?_⟩
  · -- A merge keeps the creation, so every entry keeps its rank.
    change r ∈ c.order ↔ _
    rw [h.mem_order_iff r]
    simp only [← lookup_eq_some_iff_mem hnodup, ← lookup_eq_some_iff_mem h.ids_nodup]
    have hfind := find?_mergeInto c id r.id m
    simp only [find?] at hfind
    rw [hfind]
    split
    · next hid =>
      subst hid
      cases c.entries.lookup r.id <;> simp
    · rfl
  · simpa [size, Cache.mergeInto] using h.size_le

theorem find?_addEntry {c : Cache} {id : FlowId} (hnew : c.find? id = none) (id' : FlowId)
    (m : Metrics) (now : Instant) :
    (c.addEntry id m now).find? id' = if id' = id then some ⟨m, now⟩ else c.find? id' :=
  lookup_append_singleton _ hnew id'

theorem WellFormed.addEntry {c : Cache} (h : c.WellFormed) {id : FlowId}
    (hnew : c.find? id = none) (hroom : c.size < c.capacity) (m : Metrics) (now : Instant) :
    (c.addEntry id m now).WellFormed where
  capacity_pos := h.capacity_pos
  ids_nodup := keys_nodup_append_singleton h.ids_nodup _ hnew
  order_ascending := h.order_ascending.insert _
  mem_order_iff r := by
    have hiff := h.mem_order_iff r
    simp only [Cache.addEntry, Rank.mem_insert, List.mem_append, List.mem_singleton,
      Prod.mk.injEq, hiff]
    constructor
    · rintro (rfl | ⟨e, hmem, hcreated⟩)
      · exact ⟨⟨m, now⟩, .inr ⟨rfl, rfl⟩, rfl⟩
      · exact ⟨e, .inl hmem, hcreated⟩
    · rintro ⟨e, hmem | ⟨hid, rfl⟩, hcreated⟩
      · exact .inr ⟨e, hmem, hcreated⟩
      · left; cases r; simp_all
  size_le := by
    have hsize : (c.addEntry id m now).size = c.size + 1 := by simp [size, Cache.addEntry]
    rw [hsize]
    exact hroom

end Cache

end Flowmeter
