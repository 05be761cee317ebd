-- SUMMARY: What an expiry evicts and what it keeps, and since when each flow has been in a cache.
import Flowmeter.Proofs.Cache.Operation

/-!
# Expiry

An expiry goes through the ranks in order and pops entries until it meets one
that has not lived for the timeout. Ranks are ordered by creation, so none of
the entries behind that one has. However early the expiry stops, what it takes
off the order it has evicted.

Which flows leave at an expiry depends on nothing but their creation. The
second half of this module therefore looks at a cache as a map from flows to
instants.
-/

namespace Flowmeter

namespace Cache

/-! ## Ranks and the entries they lead to -/

theorem Rank.created_le_of_compare_lt {r s : Rank} (h : compare r s = .lt) :
    r.created ≤ s.created := by
  have hlex : (compare r.created s.created).then (compare r.id s.id) = .lt := h
  rcases Ordering.then_eq_lt.1 hlex with hlt | ⟨heq, -⟩
  · exact Nat.le_of_lt (Nat.compare_eq_lt.1 hlt)
  · exact Nat.le_of_eq (Nat.compare_eq_eq.1 heq)

/-- What the entry that a rank leads to leaves as. -/
def recordOf? (c : Cache) (r : Rank) : Option Record :=
  (c.find? r.id).map fun e => Record.ofMetrics c.clock r.id e.metrics

theorem id_of_recordOf? {c : Cache} {r : Rank} {x : Record} (h : c.recordOf? r = some x) :
    x.id = r.id := by
  obtain ⟨e, -, rfl⟩ := Option.map_eq_some_iff.1 h
  rfl

/-- What leaves after another entry leaves as it would have before. -/
theorem recordOf?_dropFirst {c : Cache} {first r : Rank} (ranks : List Rank)
    (hne : r.id ≠ first.id) : (c.dropFirst first ranks).recordOf? r = c.recordOf? r := by
  rw [recordOf?, find?_dropFirst, if_neg hne]
  rfl

/-- Whether an entry created at `created` has lived for the timeout at `now`. -/
def IsDue (c : Cache) (now created : Instant) : Prop := created + c.timeout.nanos ≤ now

namespace WellFormed

variable {c c' : Cache} {count : Nat} {now : Instant} {batch : Batch}

/-- If the entry with the least rank is not due, none is. -/
theorem not_isDue_of_first (h : c.WellFormed) {first : Rank} {ranks : List Rank}
    (horder : c.order = first :: ranks) (hfirst : ¬ c.IsDue now first.created) :
    ∀ r ∈ c.order, ¬ c.IsDue now r.created := by
  have hascending := h.order_ascending
  rw [horder] at hascending ⊢
  intro r hr hdue
  apply hfirst
  rcases List.mem_cons.1 hr with rfl | hr
  · exact hdue
  · have hle := Rank.created_le_of_compare_lt ((List.pairwise_cons.1 hascending).1 r hr)
    exact Nat.le_trans (Nat.add_le_add_right hle _) hdue

/-- An expiry evicts the entries of the ranks that it takes off, all of them
due. If it has had the time, none that it leaves is due. -/
theorem expireUpTo_evicts (h : c.WellFormed) (heq : expireUpTo count c now = .ok (batch, c')) :
    ∃ dropped, c.order = dropped ++ c'.order ∧ batch.map some = dropped.map c.recordOf? ∧
      (∀ r ∈ dropped, c.IsDue now r.created) ∧
      (c.order.length ≤ count → ∀ r ∈ c'.order, ¬ c.IsDue now r.created) := by
  induction count generalizing c batch with
  | zero =>
    obtain ⟨rfl, rfl⟩ := Prod.mk.inj (Except.ok.inj heq)
    refine ⟨[], rfl, rfl, by simp, fun hlength r hr => ?_⟩
    rw [List.length_eq_zero_iff.1 (Nat.le_zero.1 hlength)] at hr
    cases hr
  | succ count ih =>
    rw [expireUpTo] at heq
    split at heq
    · next horder =>
      obtain ⟨rfl, rfl⟩ := Prod.mk.inj (Except.ok.inj heq)
      exact ⟨[], rfl, rfl, by simp, by simp [horder]⟩
    · next first ranks horder =>
      obtain ⟨due, hdue, heq⟩ := bind_eq_ok.1 heq
      obtain ⟨-, rfl⟩ := Instant.add_eq_ok_iff.1 hdue
      split at heq
      · next hearly =>
        obtain ⟨rfl, rfl⟩ := Prod.mk.inj (Except.ok.inj heq)
        have hnone := h.not_isDue_of_first horder (Nat.not_le.2 hearly)
        exact ⟨[], rfl, rfl, by simp, fun _ => hnone⟩
      · next hlate =>
        obtain ⟨e, hfirst, -⟩ := h.find?_first horder
        simp only [pop_cons horder hfirst] at heq
        obtain ⟨⟨later, c₁⟩, hlater, heq⟩ := bind_eq_ok.1 heq
        obtain ⟨rfl, rfl⟩ := Prod.mk.inj (Except.ok.inj heq)
        obtain ⟨dropped, hranks, hleave, hdropped, hkept⟩ := ih (h.dropFirst horder) hlater
        have hranks : ranks = dropped ++ c₁.order := hranks
        refine ⟨first :: dropped, ?_, ?_, ?_, fun hlength => hkept ?_⟩
        · rw [horder, List.cons_append, ← hranks]
        · have hfirstRecord : c.recordOf? first
              = some (Record.ofMetrics c.clock first.id e.metrics) := by simp [recordOf?, hfirst]
          have hsame : dropped.map (c.dropFirst first ranks).recordOf?
              = dropped.map c.recordOf? := by
            refine List.map_congr_left fun r hr => recordOf?_dropFirst ranks ?_
            have hmem : r ∈ ranks := hranks ▸ List.mem_append_left _ hr
            exact h.id_ne_first horder hmem
          rw [List.map_cons, hfirstRecord, ← hsame, ← hleave]
          rfl
        · intro r hr
          rcases List.mem_cons.1 hr with rfl | hr
          · exact Nat.not_lt.1 hlate
          · exact hdropped r hr
        · rw [horder] at hlength
          exact Nat.le_of_succ_le_succ hlength

end WellFormed

/-! ## Since when a flow is in a cache -/

/-- When the entry of a flow was created. -/
def createdAt (c : Cache) (id : FlowId) : Option Instant := (c.find? id).map Entry.created

theorem createdAt_empty (max : Nat) (timeout : Duration) (clock : Clock) (id : FlowId) :
    (empty max timeout clock).createdAt id = none := rfl

/-- A merge moves no creation. -/
theorem createdAt_mergeInto (c : Cache) (id : FlowId) (m : Metrics) (id' : FlowId) :
    (c.mergeInto id m).createdAt id' = c.createdAt id' := by
  rw [createdAt, createdAt, find?_mergeInto]
  split
  · next hid =>
    rw [hid, Option.map_map]
    rfl
  · rfl

namespace WellFormed

variable {c c' : Cache} {now : Instant} {batch : Batch} {id : FlowId} {t : Instant}

theorem createdAt_eq_some_iff (h : c.WellFormed) :
    c.createdAt id = some t ↔ ⟨t, id⟩ ∈ c.order := by
  rw [createdAt, Option.map_eq_some_iff, h.mem_order_iff]
  simp only [h.find?_eq_some_iff]

/-- A sample that evicts nothing puts its flow in the cache, unless it is there. -/
theorem createdAt_insert (h : c.WellFormed) {r : RawRecord} (heq : c.insert r now = (none, c'))
    (id : FlowId) :
    c'.createdAt id = (c.createdAt id).or (if id = r.id then some now else none) := by
  obtain ⟨e, hfind, rfl⟩ | ⟨hnew, -, rfl⟩ := h.cases_of_insert_eq_none heq
  · rw [createdAt_mergeInto]
    split
    · next hid => simp [createdAt, hid, hfind]
    · simp
  · rw [createdAt, createdAt, find?_addEntry hnew]
    split
    · next hid =>
      subst hid
      simp [hnew]
    · simp

/-- A flow stays at an expiry if it has not lived for the timeout. -/
theorem createdAt_expire (h : c.WellFormed) (heq : c.expire now = .ok (batch, c')) :
    c'.createdAt id = some t ↔ c.createdAt id = some t ∧ ¬ c.IsDue now t := by
  obtain ⟨dropped, horder, -, hdropped, hkept⟩ := h.expireUpTo_evicts heq
  have h' : c'.WellFormed := (h.expire_pops heq).wellFormed h
  rw [h.createdAt_eq_some_iff, h'.createdAt_eq_some_iff, horder, List.mem_append]
  constructor
  · intro hmem
    exact ⟨.inr hmem, hkept (Nat.le_refl _) _ hmem⟩
  · rintro ⟨hmem | hmem, hdue⟩
    · exact absurd (hdropped _ hmem) hdue
    · exact hmem

/-- A flow leaves at an expiry if it has lived for the timeout. -/
theorem exists_mem_expire (h : c.WellFormed) (heq : c.expire now = .ok (batch, c'))
    (hcreated : c.createdAt id = some t) (hdue : c.IsDue now t) : ∃ x ∈ batch, x.id = id := by
  obtain ⟨dropped, horder, hleave, -, hkept⟩ := h.expireUpTo_evicts heq
  rw [h.createdAt_eq_some_iff, horder, List.mem_append] at hcreated
  rcases hcreated with hmem | hmem
  · have hrecord : c.recordOf? ⟨t, id⟩ ∈ batch.map some :=
      hleave ▸ List.mem_map_of_mem hmem
    obtain ⟨x, hx, hrank⟩ := List.mem_map.1 hrecord
    exact ⟨x, hx, id_of_recordOf? hrank.symm⟩
  · exact absurd hdue (hkept (Nat.le_refl _) _ hmem)

end WellFormed

end Cache

end Flowmeter
