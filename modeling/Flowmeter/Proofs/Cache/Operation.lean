-- SUMMARY: The operations of a cache, each with everything it can do, and sequences of operations.
import Flowmeter.Proofs.Cache.WellFormed
import Flowmeter.Proofs.Time.Overflow

/-!
# Operations

Besides being drained, a cache changes in three ways: a sample is merged into
an entry, an entry is added, and the entry with the least rank is popped. This
module says which of them an insertion and an expiry amount to. Whatever holds
of popping and adding then holds of all runs of operations.
-/

namespace Flowmeter

namespace Cache

/-- What a cache is made with stays the same. -/
structure SameSettings (c c' : Cache) : Prop where
  capacity_eq : c'.capacity = c.capacity
  timeout_eq : c'.timeout = c.timeout
  clock_eq : c'.clock = c.clock

theorem SameSettings.symm {c c' : Cache} (h : SameSettings c c') : SameSettings c' c :=
  ⟨h.capacity_eq.symm, h.timeout_eq.symm, h.clock_eq.symm⟩

theorem SameSettings.trans {c c' c'' : Cache} (h : SameSettings c c') (h' : SameSettings c' c'') :
    SameSettings c c'' :=
  ⟨h'.capacity_eq.trans h.capacity_eq, h'.timeout_eq.trans h.timeout_eq,
    h'.clock_eq.trans h.clock_eq⟩

/-! ## Popping several times -/

/-- `batch` is popped off `c` record by record, and `c'` is left. -/
inductive Pops : Cache → Batch → Cache → Prop where
  | done {c : Cache} : Pops c [] c
  | pop {c c' : Cache} {first : Rank} {ranks : List Rank} {e : Entry} {batch : Batch} :
      c.order = first :: ranks → c.find? first.id = some e →
      Pops (c.dropFirst first ranks) batch c' →
      Pops c (Record.ofMetrics c.clock first.id e.metrics :: batch) c'

namespace Pops

variable {c c' : Cache} {batch : Batch}

theorem wellFormed (h : Pops c batch c') (hc : c.WellFormed) : c'.WellFormed := by
  induction h with
  | done => exact hc
  | pop horder _ _ ih => exact ih (hc.dropFirst horder)

theorem sameSettings (h : Pops c batch c') : SameSettings c c' := by
  induction h with
  | done => exact ⟨rfl, rfl, rfl⟩
  | pop _ _ _ ih => exact ⟨ih.capacity_eq, ih.timeout_eq, ih.clock_eq⟩

end Pops

/-! ## Inserting -/

section

variable {c : Cache} {r : RawRecord}

theorem insert_of_cached {e : Entry} (hfind : c.find? r.id = some e) (now : Instant) :
    c.insert r now = (none, c.mergeInto r.id r.metrics) := by
  simp only [insert, hfind]

theorem insert_of_room (hnew : c.find? r.id = none) (hroom : c.size < c.capacity) (now : Instant) :
    c.insert r now = (none, c.addEntry r.id r.metrics now) := by
  simp only [insert, hnew, if_neg (Nat.not_le.2 hroom)]

end

namespace WellFormed

variable {c : Cache}

/-- A cache that holds an entry has a least rank. -/
theorem order_ne_nil (h : c.WellFormed) (hsize : 0 < c.size) : c.order ≠ [] := by
  intro hnil
  obtain ⟨⟨id, e⟩, hmem⟩ := List.exists_mem_of_length_pos hsize
  have hrank := (h.mem_order_iff ⟨e.created, id⟩).2 ⟨e, hmem, rfl⟩
  rw [hnil] at hrank
  cases hrank

theorem insert_of_full (h : c.WellFormed) {r : RawRecord} (hnew : c.find? r.id = none)
    (hfull : c.capacity ≤ c.size) (now : Instant) :
    ∃ first ranks e, c.order = first :: ranks ∧ c.find? first.id = some e ∧
      c.insert r now = (some (Record.ofMetrics c.clock first.id e.metrics),
        (c.dropFirst first ranks).addEntry r.id r.metrics now) := by
  obtain ⟨first, ranks, horder⟩ := List.exists_cons_of_ne_nil
    (h.order_ne_nil (Nat.lt_of_lt_of_le h.capacity_pos hfull))
  obtain ⟨e, hfirst, -⟩ := h.find?_first horder
  refine ⟨first, ranks, e, horder, hfirst, ?_⟩
  simp only [insert, hnew, if_pos hfull, pop_cons horder hfirst]

/-- An insertion merges, or it adds an entry, after popping one if the cache is full. -/
theorem insert_cases (h : c.WellFormed) (r : RawRecord) (now : Instant) :
    (∃ e, c.find? r.id = some e ∧ c.insert r now = (none, c.mergeInto r.id r.metrics)) ∨
    (c.find? r.id = none ∧ c.size < c.capacity ∧
      c.insert r now = (none, c.addEntry r.id r.metrics now)) ∨
    (∃ first ranks e, c.find? r.id = none ∧ c.capacity ≤ c.size ∧
      c.order = first :: ranks ∧ c.find? first.id = some e ∧
      c.insert r now = (some (Record.ofMetrics c.clock first.id e.metrics),
        (c.dropFirst first ranks).addEntry r.id r.metrics now)) := by
  cases hfind : c.find? r.id with
  | some e => exact .inl ⟨e, rfl, insert_of_cached hfind now⟩
  | none =>
    refine .inr ?_
    by_cases hfull : c.capacity ≤ c.size
    · obtain ⟨first, ranks, e, horder, hfirst, heq⟩ := h.insert_of_full hfind hfull now
      exact .inr ⟨first, ranks, e, rfl, hfull, horder, hfirst, heq⟩
    · have hroom : c.size < c.capacity := Nat.lt_of_not_le hfull
      exact .inl ⟨rfl, hroom, insert_of_room hfind hroom now⟩

/-- An insertion that pops nothing merges, or adds an entry for which there is room. -/
theorem cases_of_insert_eq_none (h : c.WellFormed) {c' : Cache} {r : RawRecord} {now : Instant}
    (heq : c.insert r now = (none, c')) :
    (∃ e, c.find? r.id = some e ∧ c' = c.mergeInto r.id r.metrics) ∨
    (c.find? r.id = none ∧ c.size < c.capacity ∧ c' = c.addEntry r.id r.metrics now) := by
  obtain ⟨e, hfind, hinsert⟩ | ⟨hnew, hroom, hinsert⟩ | ⟨first, ranks, e, -, -, -, -, hinsert⟩ :=
    h.insert_cases r now
  · exact .inl ⟨e, hfind, (Prod.mk.inj (heq.symm.trans hinsert)).2⟩
  · exact .inr ⟨hnew, hroom, (Prod.mk.inj (heq.symm.trans hinsert)).2⟩
  · rw [hinsert] at heq
    cases (Prod.mk.inj heq).1

theorem insert_wellFormed (h : c.WellFormed) (r : RawRecord) (now : Instant) :
    (c.insert r now).2.WellFormed := by
  obtain ⟨e, _, heq⟩ | ⟨hnew, hroom, heq⟩ | ⟨first, ranks, e, hnew, _, horder, _, heq⟩ :=
    h.insert_cases r now
  · rw [heq]
    exact h.mergeInto r.id r.metrics
  · rw [heq]
    exact h.addEntry hnew hroom r.metrics now
  · rw [heq]
    refine (h.dropFirst horder).addEntry ?_ ?_ r.metrics now
    · rw [find?_dropFirst, hnew, ite_self]
    · exact Nat.lt_of_lt_of_le (h.size_dropFirst_lt horder) h.size_le

theorem sameSettings_insert (h : c.WellFormed) (r : RawRecord) (now : Instant) :
    SameSettings c (c.insert r now).2 := by
  obtain ⟨_, _, heq⟩ | ⟨_, _, heq⟩ | ⟨_, _, _, _, _, _, _, heq⟩ := h.insert_cases r now
  · rw [heq]
    exact ⟨rfl, rfl, rfl⟩
  · rw [heq]
    exact ⟨rfl, rfl, rfl⟩
  · rw [heq]
    exact ⟨rfl, rfl, rfl⟩

/-! ## Expiring -/

/-- An expiry is so many pops, however many entries it may evict. -/
theorem expireUpTo_pops (h : c.WellFormed) {count : Nat} {now : Instant} {batch : Batch}
    {c' : Cache} (heq : expireUpTo count c now = .ok (batch, c')) : Pops c batch c' := by
  induction count generalizing c batch with
  | zero =>
    simp only [expireUpTo, Except.ok.injEq, Prod.mk.injEq] at heq
    obtain ⟨rfl, rfl⟩ := heq
    exact .done
  | succ count ih =>
    rw [expireUpTo] at heq
    split at heq
    · obtain ⟨rfl, rfl⟩ := Prod.mk.inj (Except.ok.inj heq)
      exact .done
    · next first ranks horder =>
      obtain ⟨due, -, heq⟩ := bind_eq_ok.1 heq
      split at heq
      · obtain ⟨rfl, rfl⟩ := Prod.mk.inj (Except.ok.inj heq)
        exact .done
      · obtain ⟨e, hfirst, -⟩ := h.find?_first horder
        simp only [pop_cons horder hfirst] at heq
        obtain ⟨⟨later, c''⟩, hlater, heq⟩ := bind_eq_ok.1 heq
        obtain ⟨rfl, rfl⟩ := Prod.mk.inj (Except.ok.inj heq)
        exact .pop horder hfirst (ih (h.dropFirst horder) hlater)

theorem expire_pops (h : c.WellFormed) {now : Instant} {batch : Batch} {c' : Cache}
    (heq : c.expire now = .ok (batch, c')) : Pops c batch c' :=
  h.expireUpTo_pops heq

/-- An expiry that evicts nothing changes nothing. -/
theorem eq_of_expire_nil (h : c.WellFormed) {now : Instant} {c' : Cache}
    (heq : c.expire now = .ok ([], c')) : c' = c := by
  cases h.expire_pops heq with
  | done => rfl

/-! ## Draining -/

theorem drain_wellFormed (h : c.WellFormed) : c.drain.2.WellFormed where
  capacity_pos := h.capacity_pos
  ids_nodup := List.nodup_nil
  order_ascending := List.Pairwise.nil
  mem_order_iff r := by simp [drain]
  size_le := Nat.zero_le _

end WellFormed

/-! ## Runs of operations -/

inductive Operation where
  | insert (r : RawRecord) (now : Instant)
  | expire (now : Instant)
  | drain

namespace Operation

/-- The batch that leaves the cache, and the cache afterwards. -/
def apply (c : Cache) : Operation → Except TimeOverflow (Batch × Cache)
  | .insert r now => .ok ((c.insert r now).1.toList, (c.insert r now).2)
  | .expire now => c.expire now
  | .drain => .ok c.drain

/-- What the operation puts into the cache. -/
def inserted : Operation → List RawRecord
  | .insert r _ => [r]
  | .expire _ | .drain => []

theorem apply_wellFormed {c c' : Cache} (h : c.WellFormed) {op : Operation} {batch : Batch}
    (heq : op.apply c = .ok (batch, c')) : c'.WellFormed := by
  cases op with
  | insert r now =>
    obtain ⟨rfl, rfl⟩ := Prod.mk.inj (Except.ok.inj heq)
    exact h.insert_wellFormed r now
  | expire now => exact (h.expire_pops heq).wellFormed h
  | drain =>
    obtain ⟨rfl, rfl⟩ := Prod.mk.inj (Except.ok.inj heq)
    exact h.drain_wellFormed

theorem sameSettings_apply {c c' : Cache} (h : c.WellFormed) {op : Operation} {batch : Batch}
    (heq : op.apply c = .ok (batch, c')) : SameSettings c c' := by
  cases op with
  | insert r now =>
    obtain ⟨rfl, rfl⟩ := Prod.mk.inj (Except.ok.inj heq)
    exact h.sameSettings_insert r now
  | expire now => exact (h.expire_pops heq).sameSettings
  | drain =>
    obtain ⟨rfl, rfl⟩ := Prod.mk.inj (Except.ok.inj heq)
    exact ⟨rfl, rfl, rfl⟩

end Operation

/-- Does operations one after the other; the batches are those that leave at each. -/
def runAll : Cache → List Operation → Except TimeOverflow (List Batch × Cache)
  | c, [] => .ok ([], c)
  | c, op :: ops => do
    let (batch, c) ← op.apply c
    let (batches, c) ← runAll c ops
    return (batch :: batches, c)

theorem runAll_cons_eq_ok {c c' : Cache} {op : Operation} {ops : List Operation}
    {batches : List Batch} :
    c.runAll (op :: ops) = .ok (batches, c') ↔
      ∃ batch c₁ later, op.apply c = .ok (batch, c₁) ∧ c₁.runAll ops = .ok (later, c') ∧
        batches = batch :: later := by
  rw [runAll]
  constructor
  · intro h
    obtain ⟨⟨batch, c₁⟩, hop, h⟩ := bind_eq_ok.1 h
    obtain ⟨⟨later, c₂⟩, hops, h⟩ := bind_eq_ok.1 h
    obtain ⟨rfl, rfl⟩ := Prod.mk.inj (Except.ok.inj h)
    exact ⟨batch, c₁, later, hop, hops, rfl⟩
  · rintro ⟨batch, c₁, later, hop, hops, rfl⟩
    exact bind_eq_ok.2 ⟨_, hop, bind_eq_ok.2 ⟨_, hops, rfl⟩⟩

theorem length_runAll {c c' : Cache} {ops : List Operation} {batches : List Batch}
    (h : c.runAll ops = .ok (batches, c')) : batches.length = ops.length := by
  induction ops generalizing c batches with
  | nil =>
    obtain ⟨rfl, rfl⟩ := Prod.mk.inj (Except.ok.inj h)
    rfl
  | cons op ops ih =>
    obtain ⟨batch, c₁, later, -, hops, rfl⟩ := runAll_cons_eq_ok.1 h
    rw [List.length_cons, List.length_cons, ih hops]

/-- Any part of a run at its beginning is a run. -/
theorem runAll_append {c c' : Cache} {ops ops' : List Operation} {batches : List Batch}
    (h : c.runAll (ops ++ ops') = .ok (batches, c')) :
    ∃ before c₁ after, c.runAll ops = .ok (before, c₁) ∧ c₁.runAll ops' = .ok (after, c') ∧
      batches = before ++ after := by
  induction ops generalizing c batches with
  | nil => exact ⟨[], c, batches, rfl, h, rfl⟩
  | cons op ops ih =>
    obtain ⟨batch, c₁, later, hop, hops, rfl⟩ := runAll_cons_eq_ok.1 h
    obtain ⟨before, c₂, after, hbefore, hafter, rfl⟩ := ih hops
    exact ⟨batch :: before, c₂, after, runAll_cons_eq_ok.2 ⟨batch, c₁, before, hop, hbefore, rfl⟩,
      hafter, rfl⟩

end Cache

end Flowmeter
