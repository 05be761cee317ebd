-- SUMMARY: While no clock goes back, entries leave a cache in the order in which they were created.
import Flowmeter.Proofs.Cache.Entries

/-!
# Departures

A batch says which flows left a cache, but not since when they had been in it.
So a run is followed here by what leaves at each operation as entries. An
eviction, whether by age or by pressure, takes the least ranks off the order,
and an entry that is added later is created later. What leaves was therefore
created no later than all that is still in the cache or yet to come.
-/

namespace Flowmeter

namespace Cache

/-! ## Operations in time -/

namespace Operation

/-- When the operation is done; a drain does not say. -/
def instant? : Operation → Option Instant
  | .insert _ now | .expire now => some now
  | .drain => none

/-- Whether what leaves at the operation is evicted; a drain is not selective. -/
def evicts : Operation → Bool
  | .insert _ _ | .expire _ => true
  | .drain => false

/-- A sample of the flow is inserted at the instant of the rank. -/
def Creates (op : Operation) (r : Rank) : Prop := ∃ m : Metrics, op = .insert ⟨r.id, m⟩ r.created

theorem Creates.instant?_eq {op : Operation} {r : Rank} (h : op.Creates r) :
    op.instant? = some r.created := by
  obtain ⟨m, rfl⟩ := h
  rfl

/-- No operation is done before the one in front of it. -/
def Chronological (ops : List Operation) : Prop :=
  (ops.filterMap instant?).Pairwise (· ≤ ·)

theorem chronological_cons {op : Operation} {ops : List Operation} :
    Chronological (op :: ops) ↔
      (∀ t ∈ op.instant?, ∀ t' ∈ ops.filterMap instant?, t ≤ t') ∧ Chronological ops := by
  unfold Chronological
  cases hop : op.instant? with
  | none => simp [hop]
  | some t => simp [hop]

end Operation

open Operation

/-! ## What leaves, as entries -/

/-- The entries of `c` that the records of a batch stand for. -/
def entriesOf (c : Cache) (batch : Batch) : List (FlowId × Entry) :=
  batch.filterMap fun x => (c.find? x.id).map (Prod.mk x.id)

theorem entriesOf_eq {c : Cache} {batch : Batch} {ranks : List Rank}
    (h : batch.map some = ranks.map c.recordOf?) :
    c.entriesOf batch = ranks.filterMap c.entryAt? := by
  induction ranks generalizing batch with
  | nil =>
    rw [List.map_eq_nil_iff.1 h]
    rfl
  | cons r ranks ih =>
    obtain ⟨x, rest, rfl, hx, hrest⟩ := List.map_eq_cons_iff.1 h
    have hentry : (c.find? x.id).map (Prod.mk x.id) = c.entryAt? r := by
      rw [id_of_recordOf? hx.symm, entryAt?]
    have hlater := ih hrest
    rw [entriesOf] at hlater ⊢
    rw [List.filterMap_cons, List.filterMap_cons, hentry, hlater]

namespace WellFormed

variable {c c' : Cache} {op : Operation} {ops : List Operation} {batch : Batch}

/-- What the ranks at the front lead to, as entries and as records. -/
theorem entriesOf_front (h : c.WellFormed) {dropped kept : List Rank}
    (horder : c.order = dropped ++ kept) (hbatch : batch.map some = dropped.map c.recordOf?) :
    (c.entriesOf batch).map rankOf = dropped ∧ (c.entriesOf batch).map (leave c.clock) = batch := by
  rw [entriesOf_eq hbatch, List.map_filterMap, List.map_filterMap]
  constructor
  · refine (List.filterMap_congr fun r hr => ?_).trans List.filterMap_some
    exact h.map_rankOf_entryAt? (horder ▸ List.mem_append_left kept hr)
  · have hrecords : dropped.filterMap c.recordOf? = batch := by
      have hbatch := congrArg (List.filterMap id) hbatch
      simpa [List.filterMap_map] using hbatch.symm
    rw [← hrecords]
    exact List.filterMap_congr fun r _ => (c.recordOf?_eq r).symm

theorem entriesOf_drain (h : c.WellFormed) : c.entriesOf c.drain.1 = c.entries := by
  rw [entriesOf, drain, List.filterMap_map]
  refine (List.filterMap_congr fun x hx => ?_).trans List.filterMap_some
  have hfind : c.find? x.1 = some x.2 := h.find?_eq_some_iff.2 hx
  change (c.find? x.1).map (Prod.mk x.1) = some x
  rw [hfind]
  rfl

/-- An eviction takes ranks off the front. Behind them, nothing comes in but what a sample
creates. -/
theorem evicts_front (h : c.WellFormed) (hop : op.evicts = true)
    (heq : op.apply c = .ok (batch, c')) :
    ∃ dropped kept, c.order = dropped ++ kept ∧ batch.map some = dropped.map c.recordOf? ∧
      ∀ r ∈ c'.order, r ∈ kept ∨ op.Creates r := by
  cases op with
  | insert r now =>
    obtain ⟨rfl, rfl⟩ := Prod.mk.inj (Except.ok.inj heq)
    obtain ⟨e, _, heq⟩ | ⟨_, _, heq⟩ | ⟨first, ranks, e, _, _, horder, hfirst, heq⟩ :=
      h.insert_cases r now
    · rw [heq]
      exact ⟨[], c.order, rfl, rfl, fun _ hs => .inl hs⟩
    · rw [heq]
      refine ⟨[], c.order, rfl, rfl, fun s hs => ?_⟩
      obtain rfl | hs := Rank.mem_insert.1 hs
      · exact .inr ⟨r.metrics, rfl⟩
      · exact .inl hs
    · rw [heq]
      refine ⟨[first], ranks, horder, by simp [recordOf?, hfirst], fun s hs => ?_⟩
      obtain rfl | hs := Rank.mem_insert.1 hs
      · exact .inr ⟨r.metrics, rfl⟩
      · exact .inl hs
  | expire now =>
    obtain ⟨dropped, horder, hbatch, -, -⟩ := h.expireUpTo_evicts heq
    exact ⟨dropped, c'.order, horder, hbatch, fun _ hs => .inl hs⟩
  | drain => cases hop

end WellFormed

/-- What an operation does to a cache, seen by when entries were created. -/
structure Departs (c : Cache) (op : Operation) (batch : Batch) (c' : Cache) : Prop where
  map_leave : (c.entriesOf batch).map (leave c.clock) = batch
  rankOf_mem : ∀ x ∈ c.entriesOf batch, rankOf x ∈ c.order
  /-- What is evicted at once is evicted in the order of creation. -/
  ascending : op.evicts = true →
    (c.entriesOf batch).Pairwise fun x y => x.2.created ≤ y.2.created
  /-- Nothing stays that was created before what leaves. -/
  le_of_mem : ∀ x ∈ c.entriesOf batch, ∀ r ∈ c'.order, x.2.created ≤ r.created ∨ op.Creates r
  mem_or_creates : ∀ r ∈ c'.order, r ∈ c.order ∨ op.Creates r

theorem WellFormed.departs {c c' : Cache} {op : Operation} {batch : Batch} (h : c.WellFormed)
    (heq : op.apply c = .ok (batch, c')) : Departs c op batch c' := by
  cases hop : op.evicts with
  | true =>
    obtain ⟨dropped, kept, horder, hbatch, hafter⟩ := h.evicts_front hop heq
    obtain ⟨hranks, hleave⟩ := h.entriesOf_front horder hbatch
    have hmem : ∀ x ∈ c.entriesOf batch, rankOf x ∈ dropped := fun x hx =>
      hranks ▸ List.mem_map_of_mem hx
    have hascending := h.order_ascending
    rw [horder] at hascending
    obtain ⟨hdropped, -, hfront⟩ := List.pairwise_append.1 hascending
    refine ⟨hleave, fun x hx => ?_, fun _ => ?_, fun x hx r hr => ?_, fun r hr => ?_⟩
    · rw [horder]
      exact List.mem_append_left kept (hmem x hx)
    · rw [← hranks] at hdropped
      exact (List.pairwise_map.1 hdropped).imp Rank.created_le_of_compare_lt
    · refine (hafter r hr).imp_left fun hr => ?_
      exact Rank.created_le_of_compare_lt (hfront (rankOf x) (hmem x hx) r hr)
    · refine (hafter r hr).imp_left fun hr => ?_
      rw [horder]
      exact List.mem_append_right dropped hr
  | false =>
    cases op with
    | insert r now => cases hop
    | expire now => cases hop
    | drain =>
      have hdrain : c.drain = (batch, c') := Except.ok.inj heq
      have hentries : c.entriesOf batch = c.entries := by rw [← h.entriesOf_drain, hdrain]
      -- Nothing stays, so only what leaves matters.
      have hnone : c'.order = [] := (congrArg (·.2.order) hdrain).symm
      refine ⟨?_, ?_, nofun, fun _ _ r hr => ?_, fun r hr => ?_⟩
      · rw [hentries]
        exact congrArg Prod.fst hdrain
      · rw [hentries]
        exact fun x hx => h.rankOf_mem_order hx
      · simp [hnone] at hr
      · simp [hnone] at hr

/-! ## Runs -/

/-- What left at an operation. -/
structure Departure where
  op : Operation
  left : List (FlowId × Entry)

/-- What leaves at each of the operations of a run. -/
def departures : Cache → List Operation → Except TimeOverflow (List Departure)
  | _, [] => .ok []
  | c, op :: ops => do
    let (batch, after) ← op.apply c
    let later ← after.departures ops
    return ⟨op, c.entriesOf batch⟩ :: later

theorem departures_cons_eq_ok {c : Cache} {op : Operation} {ops : List Operation}
    {log : List Departure} :
    c.departures (op :: ops) = .ok log ↔
      ∃ batch c₁ later, op.apply c = .ok (batch, c₁) ∧ c₁.departures ops = .ok later ∧
        log = ⟨op, c.entriesOf batch⟩ :: later := by
  rw [departures]
  constructor
  · intro h
    obtain ⟨⟨batch, c₁⟩, hop, h⟩ := bind_eq_ok.1 h
    obtain ⟨later, hops, h⟩ := bind_eq_ok.1 h
    exact ⟨batch, c₁, later, hop, hops, (Except.ok.inj h).symm⟩
  · rintro ⟨batch, c₁, later, hop, hops, rfl⟩
    exact bind_eq_ok.2 ⟨_, hop, bind_eq_ok.2 ⟨_, hops, rfl⟩⟩

/-- The entries that were evicted, in the order in which they left. -/
def evicted (log : List Departure) : List (FlowId × Entry) :=
  (log.filter (·.op.evicts)).flatMap Departure.left

theorem exists_departure {log : List Departure} {x : FlowId × Entry} (hx : x ∈ evicted log) :
    ∃ d ∈ log, x ∈ d.left := by
  obtain ⟨d, hd, hx⟩ := List.mem_flatMap.1 hx
  exact ⟨d, List.mem_of_mem_filter hd, hx⟩

namespace WellFormed

variable {c c' : Cache} {op : Operation} {ops : List Operation} {log : List Departure}

/-- The entries leave as the records of the run. -/
theorem departures_of_runAll (h : c.WellFormed) {batches : List Batch}
    (hrun : c.runAll ops = .ok (batches, c')) :
    ∃ log, c.departures ops = .ok log ∧ log.map Departure.op = ops ∧
      log.map (fun d => d.left.map (leave c.clock)) = batches := by
  induction ops generalizing c batches with
  | nil =>
    obtain ⟨rfl, rfl⟩ := Prod.mk.inj (Except.ok.inj hrun)
    exact ⟨[], rfl, rfl, rfl⟩
  | cons op ops ih =>
    obtain ⟨batch, c₁, later, hop, hops, rfl⟩ := runAll_cons_eq_ok.1 hrun
    obtain ⟨log, hlog, hmap, hbatches⟩ := ih (apply_wellFormed h hop) hops
    refine ⟨_, departures_cons_eq_ok.2 ⟨batch, c₁, log, hop, hlog, rfl⟩, ?_, ?_⟩
    · rw [List.map_cons, hmap]
    · rw [(sameSettings_apply h hop).clock_eq] at hbatches
      rw [List.map_cons, hbatches, (h.departs hop).map_leave]

/-- Whatever leaves was in the cache at the start, or was created by a sample of the run. -/
theorem departures_created (h : c.WellFormed) (hlog : c.departures ops = .ok log) :
    ∀ d ∈ log, ∀ x ∈ d.left, rankOf x ∈ c.order ∨ ∃ op ∈ ops, op.Creates (rankOf x) := by
  induction ops generalizing c log with
  | nil =>
    obtain rfl := Except.ok.inj hlog
    simp
  | cons op ops ih =>
    obtain ⟨batch, c₁, later, hop, hops, rfl⟩ := departures_cons_eq_ok.1 hlog
    have hdeparts := h.departs hop
    intro d hd x hx
    rcases List.mem_cons.1 hd with rfl | hd
    · exact .inl (hdeparts.rankOf_mem x hx)
    · rcases ih (apply_wellFormed h hop) hops d hd x hx with hmem | ⟨op', hop', hcreates⟩
      · refine (hdeparts.mem_or_creates _ hmem).imp_right fun hcreates => ?_
        exact ⟨op, List.mem_cons_self, hcreates⟩
      · exact .inr ⟨op', List.mem_cons_of_mem op hop', hcreates⟩

/-- If all that is in the cache and all that comes is created at `low` or later, so is all that
leaves. -/
theorem le_departures (h : c.WellFormed) (hlog : c.departures ops = .ok log) {low : Instant}
    (hlive : ∀ r ∈ c.order, low ≤ r.created) (hlater : ∀ t ∈ ops.filterMap instant?, low ≤ t) :
    ∀ d ∈ log, ∀ x ∈ d.left, low ≤ x.2.created := by
  intro d hd x hx
  rcases h.departures_created hlog d hd x hx with hmem | ⟨op, hop, hcreates⟩
  · exact hlive _ hmem
  · exact hlater _ (List.mem_filterMap.2 ⟨op, hop, hcreates.instant?_eq⟩)

/-- If the operations come one after the other, and after all that is in the cache, then what
leaves at one was created no later than what leaves at a later one. -/
theorem departures_pairwise (h : c.WellFormed) (hlog : c.departures ops = .ok log)
    (hchron : Chronological ops)
    (hlive : ∀ r ∈ c.order, ∀ t ∈ ops.filterMap instant?, r.created ≤ t) :
    log.Pairwise (fun d d' => ∀ x ∈ d.left, ∀ y ∈ d'.left, x.2.created ≤ y.2.created) ∧
      ∀ d ∈ log, d.op.evicts = true → d.left.Pairwise fun x y => x.2.created ≤ y.2.created := by
  induction ops generalizing c log with
  | nil =>
    obtain rfl := Except.ok.inj hlog
    simp
  | cons op ops ih =>
    obtain ⟨batch, c₁, later, hop, hops, rfl⟩ := departures_cons_eq_ok.1 hlog
    obtain ⟨hnow, hchron⟩ := chronological_cons.1 hchron
    have hbefore : ∀ r ∈ c.order, ∀ t ∈ ops.filterMap instant?, r.created ≤ t := by
      intro r hr t ht
      obtain ⟨op', hop', ht⟩ := List.mem_filterMap.1 ht
      exact hlive r hr t (List.mem_filterMap.2 ⟨op', List.mem_cons_of_mem op hop', ht⟩)
    have h₁ := apply_wellFormed h hop
    have hdeparts := h.departs hop
    have hlive₁ : ∀ r ∈ c₁.order, ∀ t ∈ ops.filterMap instant?, r.created ≤ t := by
      intro r hr
      rcases hdeparts.mem_or_creates r hr with hr | hr
      · exact hbefore r hr
      · exact hnow r.created hr.instant?_eq
    obtain ⟨hpairwise, hascending⟩ := ih h₁ hops hchron hlive₁
    constructor
    · refine List.pairwise_cons.2 ⟨fun d hd x hx => ?_, hpairwise⟩
      have hmem := hdeparts.rankOf_mem x hx
      refine h₁.le_departures hops (fun r hr => ?_) (hbefore _ hmem) d hd
      rcases hdeparts.le_of_mem x hx r hr with hle | hr
      · exact hle
      · exact hlive _ hmem _ (List.mem_filterMap.2 ⟨op, List.mem_cons_self, hr.instant?_eq⟩)
    · exact List.forall_mem_cons.2 ⟨hdeparts.ascending, hascending⟩

/-- If no sum overflows, every operation has a result. -/
theorem runAll_answers (h : c.WellFormed)
    (hlive : ∀ r ∈ c.order, r.created + c.timeout.nanos < Instant.limit)
    (hlater : ∀ op ∈ ops, ∀ r, op.Creates r → r.created + c.timeout.nanos < Instant.limit) :
    ∃ answer, c.runAll ops = .ok answer := by
  induction ops generalizing c with
  | nil => exact ⟨_, rfl⟩
  | cons op ops ih =>
    obtain ⟨hop, hlater⟩ := List.forall_mem_cons.1 hlater
    obtain ⟨⟨batch, c₁⟩, heq⟩ : ∃ answer, op.apply c = .ok answer := by
      cases op with
      | insert r now => exact ⟨_, rfl⟩
      | expire now => exact ⟨_, h.expireUpTo_eq (Nat.le_refl _) hlive⟩
      | drain => exact ⟨_, rfl⟩
    have hlive₁ : ∀ r ∈ c₁.order, r.created + c.timeout.nanos < Instant.limit := fun r hr =>
      ((h.departs heq).mem_or_creates r hr).elim (hlive r) (hop r)
    rw [← (sameSettings_apply h heq).timeout_eq] at hlive₁ hlater
    obtain ⟨⟨batches, c'⟩, hrun⟩ := ih (apply_wellFormed h heq) hlive₁ hlater
    exact ⟨_, runAll_cons_eq_ok.2 ⟨batch, c₁, batches, heq, hrun, rfl⟩⟩

end WellFormed

/-- Operations on a new cache that come one after the other, however it is set up. All entries
that leave were created by samples. Those that are evicted, by age or by pressure, leave in
the order in which they were created, over the whole run. What a drain takes was created no
earlier than all that was evicted before, and no later than all that is evicted after it. And
a sample that is merged changes neither the creation of an entry nor the order of eviction. -/
theorem runAll_evicts_in_order (max : Nat) (timeout : Duration) (clock : Clock)
    {ops : List Operation} (h : Chronological ops) :
    ((∀ r now, .insert r now ∈ ops → now + timeout.nanos < Instant.limit) →
      ∃ answer, (empty max timeout clock).runAll ops = .ok answer) ∧
    ∀ batches c, (empty max timeout clock).runAll ops = .ok (batches, c) →
      ∃ log, (empty max timeout clock).departures ops = .ok log ∧
        log.map Departure.op = ops ∧
        log.map (fun d => d.left.map (leave clock)) = batches ∧
        (∀ d ∈ log, ∀ x ∈ d.left, ∃ m, .insert ⟨x.1, m⟩ x.2.created ∈ ops) ∧
        (evicted log).Pairwise (fun x y => x.2.created ≤ y.2.created) ∧
        (∀ before d after, log = before ++ d :: after → d.op = .drain → ∀ x ∈ d.left,
          (∀ y ∈ evicted before, y.2.created ≤ x.2.created) ∧
            ∀ y ∈ evicted after, x.2.created ≤ y.2.created) ∧
        ∀ r now e, c.find? r.id = some e →
          ∃ c', c.insert r now = (none, c') ∧ c'.order = c.order ∧
            ∀ id, c'.createdAt id = c.createdAt id := by
  have hempty := empty_wellFormed max timeout clock
  constructor
  · intro hfits
    refine hempty.runAll_answers (fun r hr => nomatch hr) fun op hop r hr => ?_
    obtain ⟨m, rfl⟩ := hr
    exact hfits _ _ hop
  · intro batches c hrun
    obtain ⟨log, hlog, hops, hbatches⟩ := hempty.departures_of_runAll hrun
    obtain ⟨hpairwise, hascending⟩ :=
      hempty.departures_pairwise hlog h fun r hr => nomatch hr
    refine ⟨log, hlog, hops, hbatches, fun d hd x hx => ?_, ?_, ?_, fun r now e hfind => ?_⟩
    · rcases hempty.departures_created hlog d hd x hx with hnone | ⟨op, hop, m, rfl⟩
      · cases hnone
      · exact ⟨m, hop⟩
    · refine List.pairwise_flatMap.2 ⟨fun d hd => ?_, hpairwise.sublist List.filter_sublist⟩
      obtain ⟨hd, hevicts⟩ := List.mem_filter.1 hd
      exact hascending d hd hevicts
    · rintro before d after rfl - x hx
      obtain ⟨-, hafter, hbefore⟩ := List.pairwise_append.1 hpairwise
      constructor
      · intro y hy
        obtain ⟨d', hd', hy⟩ := exists_departure hy
        exact hbefore d' hd' d List.mem_cons_self y hy x hx
      · intro y hy
        obtain ⟨d', hd', hy⟩ := exists_departure hy
        exact (List.pairwise_cons.1 hafter).1 d' hd' x hx y hy
    · exact ⟨_, insert_of_cached hfind now, rfl, createdAt_mergeInto c r.id r.metrics⟩

/-- Two flows of one instant, a sample for the first of them, and a third flow for which there is
no room. Then a drain, two flows more, and an expiry that comes in time for one of them. -/
def comings : List Operation :=
  [.insert ⟨.tcpFrom 1 3, .ofPacket 60 5⟩ 10, .insert ⟨.tcpFrom 2 3, .ofPacket 70 6⟩ 10,
    .insert ⟨.tcpFrom 1 3, .ofPacket 80 7⟩ 12, .insert ⟨.tcpFrom 3 3, .ofPacket 90 8⟩ 20,
    .drain, .insert ⟨.tcpFrom 4 3, .ofPacket 60 9⟩ 20, .insert ⟨.tcpFrom 1 3, .ofPacket 70 9⟩ 30,
    .expire 5000000025]

/-- The flow to which the sample was added is evicted as if it had not come. -/
theorem runAll_evicts_in_order_comings :
    Chronological comings ∧
    ∃ batches c log, (empty 2 (.ofSeconds 5) ⟨0⟩).runAll comings = .ok (batches, c) ∧
      (empty 2 (.ofSeconds 5) ⟨0⟩).departures comings = .ok log ∧
      (evicted log).map rankOf = [⟨10, .tcpFrom 1 3⟩, ⟨20, .tcpFrom 4 3⟩] ∧
      (evicted log).Pairwise (fun x y => x.2.created ≤ y.2.created) ∧
      (∀ before d after, log = before ++ d :: after → d.op = .drain → ∀ x ∈ d.left,
        (∀ y ∈ evicted before, y.2.created ≤ x.2.created) ∧
          ∀ y ∈ evicted after, x.2.created ≤ y.2.created) ∧
      c.order = [⟨30, .tcpFrom 1 3⟩] := by
  have hchron : Chronological comings := by
    unfold Chronological
    decide
  obtain ⟨log, hlog, -, -, -, hevicted, hdrained, -⟩ :=
    (runAll_evicts_in_order 2 (.ofSeconds 5) ⟨0⟩ hchron).2 _ _ rfl
  have hranks : ((empty 2 (.ofSeconds 5) ⟨0⟩).departures comings).map
      (fun log => (evicted log).map rankOf) = .ok [⟨10, .tcpFrom 1 3⟩, ⟨20, .tcpFrom 4 3⟩] := by rfl
  rw [hlog] at hranks
  exact ⟨hchron, _, _, log, rfl, hlog, Except.ok.inj hranks, hevicted, hdrained, rfl⟩

end Cache

end Flowmeter
