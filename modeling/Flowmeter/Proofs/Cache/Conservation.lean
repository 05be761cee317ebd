-- SUMMARY: A cache loses and repeats no sample: what leaves it and what stays in it account for all that went in.
import Flowmeter.Proofs.Cache.Operation
import Flowmeter.Proofs.Flow.Samples

/-!
# Conservation

The samples of a flow that went into a cache are cut into consecutive runs.
Each run but the last was merged into a record that has left the cache, in that
order; the last one is what the live entry holds, if there is one. No record
holds samples of two flows.
-/

namespace Flowmeter

/-- The samples of a flow among raw records, in order. -/
def RawRecord.metricsOf (id : FlowId) (rs : List RawRecord) : List Metrics :=
  (rs.filter (·.id = id)).map metrics

/-- What a record says about its flow, apart from what was added to it. -/
def Record.raw (r : Record) : RawRecord := ⟨r.id, r.metrics⟩

def Batch.raws (batch : Batch) : List RawRecord := batch.map Record.raw

namespace RawRecord

@[simp] theorem metricsOf_nil (id : FlowId) : metricsOf id [] = [] := rfl

@[simp] theorem metricsOf_append (id : FlowId) (rs rs' : List RawRecord) :
    metricsOf id (rs ++ rs') = metricsOf id rs ++ metricsOf id rs' := by
  simp [metricsOf]

theorem metricsOf_cons (id : FlowId) (r : RawRecord) (rs : List RawRecord) :
    metricsOf id (r :: rs) = (if r.id = id then [r.metrics] else []) ++ metricsOf id rs := by
  by_cases h : r.id = id <;> simp [metricsOf, h]

end RawRecord

namespace Batch

@[simp] theorem raws_nil : raws [] = [] := rfl

@[simp] theorem raws_append (b b' : Batch) : raws (b ++ b') = raws b ++ raws b' := by
  simp [raws]

end Batch

namespace Cache

open RawRecord

/-- The merged samples of a flow that are still in the cache. -/
def live (c : Cache) (id : FlowId) : List Metrics := (c.find? id).toList.map Entry.metrics

theorem live_empty (max : Nat) (timeout : Duration) (clock : Clock) (id : FlowId) :
    (empty max timeout clock).live id = [] := rfl

/-! ## What leaves a cache was in it -/

theorem live_dropFirst {c : Cache} {first : Rank} {ranks : List Rank} {e : Entry}
    (hfind : c.find? first.id = some e) (id : FlowId) :
    (if first.id = id then [e.metrics] else []) ++ (c.dropFirst first ranks).live id
      = c.live id := by
  by_cases hid : first.id = id
  · subst hid
    simp [live, find?_dropFirst, hfind]
  · simp [live, find?_dropFirst, hid, Ne.symm hid]

theorem Pops.metricsOf_append_live {c c' : Cache} {batch : Batch} (h : Pops c batch c')
    (id : FlowId) : metricsOf id batch.raws ++ c'.live id = c.live id := by
  induction h with
  | done => rfl
  | @pop c c' first ranks e batch _ hfind _ ih =>
    have hraws : Batch.raws (Record.ofMetrics c.clock first.id e.metrics :: batch)
        = ⟨first.id, e.metrics⟩ :: Batch.raws batch := rfl
    rw [hraws, metricsOf_cons, List.append_assoc, ih, live_dropFirst hfind]

theorem WellFormed.metricsOf_drain {c : Cache} (h : c.WellFormed) (id : FlowId) :
    metricsOf id c.drain.1.raws = c.live id := by
  have hfilter := Lookup.filter_eq_lookup h.ids_nodup id
  have hraws : c.drain.1.raws = c.entries.map fun x => ⟨x.1, x.2.metrics⟩ := by
    simp [drain, Batch.raws, Record.raw, Record.ofMetrics]
  rw [hraws, metricsOf, List.filter_map]
  simp only [Function.comp_def, hfilter, List.map_map, live, find?]

/-- A drained cache is empty. -/
theorem live_drain (c : Cache) (id : FlowId) : c.drain.2.live id = [] := rfl

/-! ## What goes into a cache stays or leaves merged -/

theorem live_mergeInto {c : Cache} {id : FlowId} {e : Entry} (hfind : c.find? id = some e)
    (m : Metrics) (id' : FlowId) :
    (c.mergeInto id m).live id' = if id' = id then [e.metrics.merge m] else c.live id' := by
  simp only [live, find?_mergeInto, hfind]
  split <;> rfl

theorem live_addEntry {c : Cache} {id : FlowId} (hnew : c.find? id = none) (m : Metrics)
    (now : Instant) (id' : FlowId) :
    (c.addEntry id m now).live id' = if id' = id then [m] else c.live id' := by
  simp only [live, find?_addEntry hnew]
  split <;> rfl

/-- Adding the first sample of a flow that is not in the cache. -/
theorem accounts_addEntry {c : Cache} {r : RawRecord} (hnew : c.find? r.id = none) {id : FlowId}
    {reported samples : List Metrics} (h : Accounts (reported ++ c.live id) samples)
    (now : Instant) :
    Accounts (reported ++ (c.addEntry r.id r.metrics now).live id)
      (samples ++ metricsOf id [r]) := by
  rw [live_addEntry hnew, metricsOf_cons, metricsOf_nil, List.append_nil]
  by_cases hid : id = r.id
  · subst hid
    simp only [live, hnew, Option.toList_none, List.map_nil, List.append_nil] at h
    simpa using h.add r.metrics
  · simpa [hid, Ne.symm hid] using h

theorem WellFormed.accounts_insert {c : Cache} (hc : c.WellFormed) (r : RawRecord) (now : Instant)
    {id : FlowId} {reported samples : List Metrics}
    (h : Accounts (reported ++ c.live id) samples) :
    Accounts
      (reported ++ metricsOf id (Batch.raws (c.insert r now).1.toList) ++ (c.insert r now).2.live id)
      (samples ++ metricsOf id [r]) := by
  obtain ⟨e, hfind, heq⟩ | ⟨hnew, _, heq⟩ | ⟨first, ranks, e, hnew, _, _, hfirst, heq⟩ :=
    hc.insert_cases r now
  · rw [heq, live_mergeInto hfind, metricsOf_cons, metricsOf_nil, List.append_nil]
    by_cases hid : id = r.id
    · subst hid
      simp only [live, hfind, Option.toList_some, List.map_cons, List.map_nil] at h
      simpa using h.merge_last r.metrics
    · simpa [hid, Ne.symm hid] using h
  · rw [heq]
    simpa using accounts_addEntry hnew h now
  · rw [heq]
    -- What is popped leaves with its flow's samples, so only the adding counts.
    have hpops : Pops c [Record.ofMetrics c.clock first.id e.metrics] (c.dropFirst first ranks) :=
      .pop ‹_› hfirst .done
    have hnew' : (c.dropFirst first ranks).find? r.id = none := by
      rw [find?_dropFirst, hnew, ite_self]
    refine accounts_addEntry hnew' ?_ now
    rw [List.append_assoc, Option.toList_some, hpops.metricsOf_append_live]
    exact h

/-- Each operation accounts for what it puts in. -/
theorem WellFormed.accounts_apply {c c' : Cache} (hc : c.WellFormed) {op : Operation}
    {batch : Batch} (heq : op.apply c = .ok (batch, c')) {id : FlowId}
    {reported samples : List Metrics} (h : Accounts (reported ++ c.live id) samples) :
    Accounts (reported ++ metricsOf id batch.raws ++ c'.live id)
      (samples ++ metricsOf id op.inserted) := by
  cases op with
  | insert r now =>
    obtain ⟨rfl, rfl⟩ := Prod.mk.inj (Except.ok.inj heq)
    exact hc.accounts_insert r now h
  | expire now =>
    rw [List.append_assoc, (hc.expire_pops heq).metricsOf_append_live]
    simpa [Operation.inserted] using h
  | drain =>
    have hmetrics := hc.metricsOf_drain id
    have hlive := live_drain c id
    rw [show c.drain = (batch, c') from Except.ok.inj heq] at hmetrics hlive
    rw [hmetrics, hlive]
    simpa [Operation.inserted] using h

/-- So does a run of operations. -/
theorem WellFormed.accounts_runAll {c c' : Cache} (hc : c.WellFormed) {ops : List Operation}
    {batches : List Batch} (heq : c.runAll ops = .ok (batches, c')) {id : FlowId}
    {reported samples : List Metrics} (h : Accounts (reported ++ c.live id) samples) :
    Accounts (reported ++ metricsOf id (Batch.raws batches.flatten) ++ c'.live id)
      (samples ++ metricsOf id (ops.flatMap Operation.inserted)) := by
  induction ops generalizing c batches reported samples with
  | nil =>
    obtain ⟨rfl, rfl⟩ := Prod.mk.inj (Except.ok.inj heq)
    simpa using h
  | cons op ops ih =>
    obtain ⟨batch, c₁, later, hop, hops, rfl⟩ := runAll_cons_eq_ok.1 heq
    have hlater := ih (Operation.apply_wellFormed hc hop) hops (hc.accounts_apply hop h)
    simpa using hlater

/-- All runs but the last have left the cache, and the last is the live entry, if there is one. -/
theorem exists_left_last {c : Cache} {id : FlowId} {reported samples : List Metrics}
    (h : Accounts (reported ++ c.live id) samples) :
    ∃ (left : List Samples) (last : Option Samples),
      samples = (left ++ last.toList).flatMap Samples.toList ∧
      reported = left.map Samples.merged ∧
      (c.find? id).map Entry.metrics = last.map Samples.merged := by
  obtain ⟨runs, hsamples, hreported⟩ := h
  obtain ⟨left, right, rfl, hleft, hright⟩ := List.map_eq_append_iff.1 hreported.symm
  cases hfind : c.find? id with
  | none =>
    simp only [live, hfind, Option.toList_none, List.map_nil, List.map_eq_nil_iff] at hright
    subst hright
    exact ⟨left, none, hsamples, hleft.symm, rfl⟩
  | some e =>
    simp only [live, hfind, Option.toList_some, List.map_cons, List.map_nil,
      List.map_eq_singleton_iff] at hright
    obtain ⟨run, rfl, hrun⟩ := hright
    exact ⟨left, some run, hsamples, hleft.symm, congrArg some hrun.symm⟩

/-! ## What the records say -/

/-- A record of nothing but a flow's metrics, with the wall times of its start and end. -/
def IsPlain (clock : Clock) (r : Record) : Prop := r = Record.ofMetrics clock r.id r.metrics

theorem Pops.isPlain {c c' : Cache} {batch : Batch} (h : Pops c batch c') :
    ∀ r ∈ batch, IsPlain c.clock r := by
  induction h with
  | done => simp
  | pop _ _ _ ih =>
    intro r hr
    rcases List.mem_cons.1 hr with rfl | hr
    · rfl
    · exact ih r hr

theorem isPlain_drain (c : Cache) : ∀ r ∈ c.drain.1, IsPlain c.clock r := by
  intro r hr
  obtain ⟨x, _, rfl⟩ := List.mem_map.1 hr
  rfl

theorem WellFormed.isPlain_insert {c : Cache} (hc : c.WellFormed) (r : RawRecord) (now : Instant) :
    (c.insert r now).2.clock = c.clock ∧ ∀ x ∈ (c.insert r now).1.toList, IsPlain c.clock x := by
  obtain ⟨e, _, heq⟩ | ⟨_, _, heq⟩ | ⟨first, ranks, e, _, _, _, _, heq⟩ := hc.insert_cases r now
  · rw [heq]; exact ⟨rfl, by simp⟩
  · rw [heq]; exact ⟨rfl, by simp⟩
  · rw [heq]
    refine ⟨rfl, fun x hx => ?_⟩
    obtain rfl := List.mem_singleton.1 hx
    rfl

theorem WellFormed.isPlain_apply {c c' : Cache} (hc : c.WellFormed) {op : Operation}
    {batch : Batch} (heq : op.apply c = .ok (batch, c')) :
    c'.clock = c.clock ∧ ∀ r ∈ batch, IsPlain c.clock r := by
  cases op with
  | insert r now =>
    obtain ⟨rfl, rfl⟩ := Prod.mk.inj (Except.ok.inj heq)
    exact hc.isPlain_insert r now
  | expire now =>
    have hpops := hc.expire_pops heq
    exact ⟨hpops.sameSettings.clock_eq, hpops.isPlain⟩
  | drain =>
    obtain ⟨rfl, rfl⟩ := Prod.mk.inj (Except.ok.inj heq)
    exact ⟨rfl, isPlain_drain c⟩

theorem WellFormed.isPlain_runAll {c c' : Cache} (hc : c.WellFormed) {ops : List Operation}
    {batches : List Batch} (heq : c.runAll ops = .ok (batches, c')) :
    ∀ r ∈ batches.flatten, IsPlain c.clock r := by
  induction ops generalizing c batches with
  | nil =>
    obtain ⟨rfl, rfl⟩ := Prod.mk.inj (Except.ok.inj heq)
    simp
  | cons op ops ih =>
    obtain ⟨batch, c₁, later, hop, hops, rfl⟩ := runAll_cons_eq_ok.1 heq
    obtain ⟨hclock, hbatch⟩ := hc.isPlain_apply hop
    have hlater := ih (Operation.apply_wellFormed hc hop) hops
    rw [hclock] at hlater
    intro r hr
    rcases List.mem_append.1 (List.flatten_cons ▸ hr) with hr | hr
    · exact hbatch r hr
    · exact hlater r hr

/-- Plain records of a flow are determined by their metrics. -/
theorem filter_eq_of_isPlain {clock : Clock} {batch : Batch} (h : ∀ r ∈ batch, IsPlain clock r)
    (id : FlowId) :
    batch.filter (·.id = id) = (metricsOf id batch.raws).map (Record.ofMetrics clock id) := by
  induction batch with
  | nil => rfl
  | cons r batch ih =>
    have hr : r = Record.ofMetrics clock r.id r.metrics := h r (by simp)
    have hraws : Batch.raws (r :: batch) = r.raw :: Batch.raws batch := rfl
    rw [hraws, metricsOf_cons, List.map_append, ← ih fun x hx => h x (by simp [hx])]
    by_cases hid : r.id = id
    · subst hid
      simpa [Record.raw] using hr
    · simp [Record.raw, hid]

/-! ## Conservation over whole runs -/

/-- The samples of `id` that operations put into a cache, in order. -/
def samplesOf (ops : List Operation) (id : FlowId) : List Metrics :=
  metricsOf id (ops.flatMap Operation.inserted)

theorem accounts_of_runAll {max : Nat} {timeout : Duration} {clock : Clock} {c : Cache}
    {ops : List Operation} {batches : List Batch}
    (h : (empty max timeout clock).runAll ops = .ok (batches, c)) (id : FlowId) :
    Accounts (metricsOf id (Batch.raws batches.flatten) ++ c.live id) (samplesOf ops id) := by
  have hstart : Accounts ([] ++ (empty max timeout clock).live id) [] := .nil
  have hend := (empty_wellFormed max timeout clock).accounts_runAll h hstart
  exact hend

/-- A cache that is drained at the end holds nothing. -/
theorem live_of_runAll_drain {c c' : Cache} {ops : List Operation} {batches : List Batch}
    (h : c.runAll (ops ++ [.drain]) = .ok (batches, c')) (id : FlowId) : c'.live id = [] := by
  induction ops generalizing c batches with
  | nil =>
    obtain ⟨batch, c₁, later, hop, hops, -⟩ := runAll_cons_eq_ok.1 h
    obtain ⟨-, rfl⟩ := Prod.mk.inj (Except.ok.inj hop)
    obtain ⟨-, rfl⟩ := Prod.mk.inj (Except.ok.inj hops)
    exact live_drain c id
  | cons op ops ih =>
    obtain ⟨batch, c₁, later, -, hops, -⟩ := runAll_cons_eq_ok.1 h
    exact ih hops

/-- What a drained cache has reported of a flow is what it took in of it. -/
theorem mergeList?_of_runAll_drain {max : Nat} {timeout : Duration} {clock : Clock} {c : Cache}
    {ops : List Operation} {batches : List Batch}
    (h : (empty max timeout clock).runAll (ops ++ [.drain]) = .ok (batches, c)) (id : FlowId) :
    Metrics.mergeList? ((batches.flatten.filter (·.id = id)).map Record.metrics)
      = Metrics.mergeList? (samplesOf ops id) := by
  have haccounts := accounts_of_runAll h id
  rw [live_of_runAll_drain h id, List.append_nil] at haccounts
  have hinserted : samplesOf (ops ++ [.drain]) id = samplesOf ops id := by
    simp [samplesOf, Operation.inserted]
  rw [← hinserted, ← haccounts.mergeList?_eq,
    filter_eq_of_isPlain ((empty_wellFormed max timeout clock).isPlain_runAll h) id, List.map_map]
  exact congrArg _ (List.map_id _)

/-- Every run of operations cuts the samples of each flow into consecutive runs:
all but the last have left the cache, each merged into one record, and the last
one, if it has not left, is the live entry. So two caches that took in the same
and were drained have reported the same in all, however they were set up and
whatever they evicted when. -/
theorem runAll_conserves :
    (∀ (max : Nat) (timeout : Duration) (clock : Clock) (ops : List Operation)
        (batches : List Batch) (c : Cache),
      (empty max timeout clock).runAll ops = .ok (batches, c) →
      ∀ id, ∃ (left : List Samples) (last : Option Samples),
        samplesOf ops id = (left ++ last.toList).flatMap Samples.toList ∧
        batches.flatten.filter (·.id = id)
          = left.map (fun run => Record.ofMetrics clock id run.merged) ∧
        (c.find? id).map Entry.metrics = last.map Samples.merged) ∧
    (∀ (max max' : Nat) (timeout timeout' : Duration) (clock clock' : Clock)
        (ops ops' : List Operation) (batches batches' : List Batch) (c c' : Cache),
      (empty max timeout clock).runAll (ops ++ [.drain]) = .ok (batches, c) →
      (empty max' timeout' clock').runAll (ops' ++ [.drain]) = .ok (batches', c') →
      ops.flatMap Operation.inserted = ops'.flatMap Operation.inserted →
      ∀ id, Metrics.mergeList? ((batches.flatten.filter (·.id = id)).map Record.metrics)
        = Metrics.mergeList? ((batches'.flatten.filter (·.id = id)).map Record.metrics)) := by
  constructor
  · intro max timeout clock ops batches c h id
    obtain ⟨left, last, hsamples, hleft, hlast⟩ := exists_left_last (accounts_of_runAll h id)
    refine ⟨left, last, hsamples, ?_, hlast⟩
    rw [filter_eq_of_isPlain ((empty_wellFormed max timeout clock).isPlain_runAll h) id, hleft,
      List.map_map]
    rfl
  · intro max max' timeout timeout' clock clock' ops ops' batches batches' c c' h h' hsame id
    have hreport := mergeList?_of_runAll_drain h id
    have hreport' := mergeList?_of_runAll_drain h' id
    rw [hreport, hreport', samplesOf, samplesOf, hsame]

/-- Two packets of one flow around one of another, on a clock that goes back. -/
def threePackets : List Operation :=
  [.insert ⟨.tcpFrom 1 3, .ofPacket 60 5⟩ 10, .insert ⟨.tcpFrom 2 3, .ofPacket 70 6⟩ 20,
    .insert ⟨.tcpFrom 1 3, .ofPacket 80 7⟩ 15]

/-- A cache for one flow evicts at each of the last two packets; a larger one merges
the first and the last. -/
theorem runAll_conserves_threePackets :
    (∃ batches c, (empty 1 (.ofSeconds 5) ⟨0⟩).runAll threePackets = .ok (batches, c) ∧
      ∀ id, ∃ (left : List Samples) (last : Option Samples),
        samplesOf threePackets id = (left ++ last.toList).flatMap Samples.toList ∧
        batches.flatten.filter (·.id = id)
          = left.map (fun run => Record.ofMetrics ⟨0⟩ id run.merged) ∧
        (c.find? id).map Entry.metrics = last.map Samples.merged) ∧
    (∃ batches batches' c c',
      (empty 1 (.ofSeconds 5) ⟨0⟩).runAll (threePackets ++ [.drain]) = .ok (batches, c) ∧
      (empty 9 (.ofSeconds 1) ⟨7⟩).runAll ((.expire 8 :: threePackets) ++ [.drain])
        = .ok (batches', c') ∧
      ∀ id, Metrics.mergeList? ((batches.flatten.filter (·.id = id)).map Record.metrics)
        = Metrics.mergeList? ((batches'.flatten.filter (·.id = id)).map Record.metrics)) :=
  ⟨⟨_, _, rfl, runAll_conserves.1 1 _ _ threePackets _ _ rfl⟩,
    ⟨_, _, _, _, rfl, rfl,
      runAll_conserves.2 1 9 _ _ _ _ threePackets (.expire 8 :: threePackets) _ _ _ _ rfl rfl rfl⟩⟩

end Cache

end Flowmeter
