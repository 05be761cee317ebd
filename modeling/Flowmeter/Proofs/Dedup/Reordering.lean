-- SUMMARY: The order of the records in a batch decides which interface gets a free flow, and nothing else.
import Flowmeter.Proofs.Dedup.Refeeding
import Flowmeter.Proofs.Dedup.Uniqueness
import Flowmeter.Proofs.Dedup.Window

/-!
# The order inside a batch

All records of a batch are judged at one instant. Those of a flow that has an
owner are let through if they are the owner's. Of a flow that nobody owns the
first record is let through and makes its interface the owner, so that those of
all other interfaces are duplicates. Either way a flow is passed on once or not
at all, and whether it is can be told before the batch is judged.
-/

namespace Flowmeter

namespace Dedup

open Lookup

namespace Memory

variable {m m' : Memory} {flow : FlowId} {now : Instant}

theorem ownedElsewhere_congr {id : FlowId} (h : m'.lookup id.logical = m.lookup id.logical) :
    m'.ownedElsewhere id now = m.ownedElsewhere id now := by
  simp only [ownedElsewhere, h]

/-- An owner whose time is not up is not forgotten. -/
theorem lookup_expire {owner : Owner} (h : m.lookup flow = some owner) (hvalid : now < owner.expiry) :
    (m.expire now).lookup flow = some owner := by
  induction m with
  | nil => cases h
  | cons x m ih =>
    rw [expire, List.dropWhile_cons]
    split
    · next hover =>
      rw [lookup_cons_ite] at h
      split at h
      · obtain rfl := Option.some.inj h
        exact absurd hvalid (Nat.not_lt.2 (of_decide_eq_true hover))
      · exact ih h
    · exact h

theorem mem_flows_iff_isSome : flow ∈ m.flows ↔ (m.lookup flow).isSome := by
  simp [flows, List.lookup_isSome_iff]

/-! ## Flows that are let through -/

/-- Some record of `flow` in the batch is not of a flow that another interface owns. -/
def Admits (m : Memory) (batch : Batch) (now : Instant) (flow : FlowId) : Prop :=
  ∃ r ∈ batch, r.id.logical = flow ∧ m.ownedElsewhere r.id now = false

theorem admits_congr (h : m'.lookup flow = m.lookup flow) (batch : Batch) :
    m'.Admits batch now flow ↔ m.Admits batch now flow := by
  have hsame : ∀ r : Record, r.id.logical = flow →
      m'.ownedElsewhere r.id now = m.ownedElsewhere r.id now := by
    rintro r rfl
    exact ownedElsewhere_congr h
  constructor
  · rintro ⟨r, hr, hflow, howned⟩
    exact ⟨r, hr, hflow, hsame r hflow ▸ howned⟩
  · rintro ⟨r, hr, hflow, howned⟩
    exact ⟨r, hr, hflow, (hsame r hflow).trans howned⟩

theorem admits_cons_of_owned {r : Record} (h : m.ownedElsewhere r.id now = true) (rest : Batch) :
    m.Admits (r :: rest) now flow ↔ m.Admits rest now flow := by
  simp [Admits, h]

theorem admits_cons_of_not_owned {r : Record} (h : m.ownedElsewhere r.id now = false)
    (rest : Batch) :
    m.Admits (r :: rest) now flow ↔ r.id.logical = flow ∨ m.Admits rest now flow := by
  simp [Admits, h]

/-- Which flows are let through does not depend on the order of the records. -/
theorem admits_perm {batch batch' : Batch} (h : batch'.Perm batch) :
    m.Admits batch' now flow ↔ m.Admits batch now flow := by
  simp only [Admits, h.mem_iff]

/-- At `now` the interface `ifIndex` owns `flow`. -/
def Owned (m : Memory) (flow : FlowId) (ifIndex : UInt32) (now : Instant) : Prop :=
  ∃ owner, m.lookup flow = some owner ∧ owner.ifIndex = ifIndex ∧ now < owner.expiry

theorem Owned.ownedElsewhere_eq {ifIndex : UInt32} {id : FlowId} (h : m.Owned id.logical ifIndex now) :
    m.ownedElsewhere id now = decide (ifIndex ≠ id.ifIndex) := by
  obtain ⟨owner, hlookup, rfl, hvalid⟩ := h
  simp [ownedElsewhere, hlookup, hvalid]

end Memory

end Dedup

open Dedup

namespace Deduper

variable {d d' : Deduper} {batch : Batch} {now : Instant} {judged : List Judgement} {flow : FlowId}

/-! ## Judging in any order -/

/-- The records that are let through are of the flows that the memory admits. -/
theorem mem_flows_survivors (h : d.judgeEach batch now = .ok (judged, d')) :
    flow ∈ (survivors judged).map (·.record.id.logical) ↔ d.memory.Admits batch now flow := by
  induction batch generalizing d judged with
  | nil =>
    obtain ⟨rfl, rfl⟩ := Prod.mk.inj (Except.ok.inj h)
    simp [survivors, Memory.Admits]
  | cons r rest ih =>
    obtain ⟨isDuplicate, d₁, later, hr, hrest, rfl⟩ := judgeEach_cons_eq_ok.1 h
    have hlater := ih hrest
    rw [survivors_cons]
    obtain ⟨rfl, howned, rfl⟩ | ⟨rfl, howned, rfl⟩ := judge_cases hr
    · rw [Memory.admits_cons_of_owned howned]
      exact hlater
    · rw [Memory.admits_cons_of_not_owned howned]
      by_cases hflow : r.id.logical = flow
      · simp [hflow]
      · have hother : flow ≠ r.id.logical := fun heq => hflow heq.symm
        rw [Memory.admits_congr (Memory.lookup_put_of_ne d.memory hother _)] at hlater
        simpa [hflow, hother] using hlater

/-- A flow that is not let through is remembered as it was. -/
theorem lookup_judgeEach_of_not_admits (h : d.judgeEach batch now = .ok (judged, d'))
    (hnone : ¬ d.memory.Admits batch now flow) : d'.memory.lookup flow = d.memory.lookup flow := by
  induction batch generalizing d judged with
  | nil =>
    obtain ⟨rfl, rfl⟩ := Prod.mk.inj (Except.ok.inj h)
    rfl
  | cons r rest ih =>
    obtain ⟨isDuplicate, d₁, later, hr, hrest, rfl⟩ := judgeEach_cons_eq_ok.1 h
    obtain ⟨rfl, howned, rfl⟩ | ⟨rfl, howned, rfl⟩ := judge_cases hr
    · rw [Memory.admits_cons_of_owned howned] at hnone
      exact ih hrest hnone
    · rw [Memory.admits_cons_of_not_owned howned, not_or] at hnone
      have hput := Memory.lookup_put_of_ne d.memory (Ne.symm hnone.1) ⟨r.id.ifIndex, now + d.expiry.nanos⟩
      rw [← Memory.admits_congr hput] at hnone
      exact (ih hrest hnone.2).trans hput

/-- A flow that is let through is owned for an expiry from now on. -/
theorem expiry_judgeEach_of_admits (h : d.judgeEach batch now = .ok (judged, d'))
    (hsome : d.memory.Admits batch now flow) :
    (d'.memory.lookup flow).map Owner.expiry = some (now + d.expiry.nanos) := by
  induction batch generalizing d judged with
  | nil =>
    obtain ⟨r, hr, -⟩ := hsome
    cases hr
  | cons r rest ih =>
    obtain ⟨isDuplicate, d₁, later, hr, hrest, rfl⟩ := judgeEach_cons_eq_ok.1 h
    obtain ⟨rfl, howned, rfl⟩ | ⟨rfl, howned, rfl⟩ := judge_cases hr
    · rw [Memory.admits_cons_of_owned howned] at hsome
      exact ih hrest hsome
    · by_cases hagain : Memory.Admits (d.memory.put r.id.logical ⟨r.id.ifIndex, now + d.expiry.nanos⟩)
          rest now flow
      · have hlater := ih hrest hagain
        exact hlater
      · rw [lookup_judgeEach_of_not_admits hrest hagain]
        rw [Memory.admits_cons_of_not_owned howned] at hsome
        by_cases hflow : flow = r.id.logical
        · rw [hflow, Memory.lookup_put]
          simp
        · have hput := Memory.lookup_put_of_ne d.memory hflow ⟨r.id.ifIndex, now + d.expiry.nanos⟩
          rw [Memory.admits_congr hput] at hagain
          exact absurd (hsome.resolve_left (Ne.symm hflow)) hagain

/-- A record that is let through makes its interface the owner. -/
theorem owned_of_judge (hexpiry : 0 < d.expiry.nanos) {id : FlowId}
    (h : d.judge id now = .ok (false, d')) : d'.memory.Owned id.logical id.ifIndex now := by
  obtain ⟨hdup, -, -⟩ | ⟨-, -, rfl⟩ := judge_cases h
  · cases hdup
  · refine ⟨_, by rw [Memory.lookup_put, if_pos rfl], rfl, ?_⟩
    exact Nat.lt_add_of_pos_right hexpiry

/-- A flow that has an owner keeps it, and those of its records that are not the owner's are
duplicates. -/
theorem owned_judge (hexpiry : 0 < d.expiry.nanos) {ifIndex : UInt32} {id : FlowId}
    {isDuplicate : Bool} (h : d.judge id now = .ok (isDuplicate, d'))
    (howned : d.memory.Owned flow ifIndex now) :
    d'.memory.Owned flow ifIndex now ∧
      (id.logical = flow → isDuplicate = decide (ifIndex ≠ id.ifIndex)) := by
  obtain ⟨rfl, helse, rfl⟩ | ⟨rfl, helse, hd'⟩ := judge_cases h
  · refine ⟨howned, ?_⟩
    rintro rfl
    rw [← helse, howned.ownedElsewhere_eq]
  · by_cases hflow : id.logical = flow
    · subst hflow
      have hsame := howned.ownedElsewhere_eq
      rw [helse] at hsame
      obtain rfl : ifIndex = id.ifIndex := by simpa using hsame
      exact ⟨owned_of_judge hexpiry h, fun _ => hsame⟩
    · obtain ⟨owner, hlookup, hifIndex, hvalid⟩ := howned
      refine ⟨⟨owner, ?_, hifIndex, hvalid⟩, fun heq => absurd heq hflow⟩
      rw [hd', Memory.lookup_put_of_ne _ (Ne.symm hflow), hlookup]

/-- Of a flow that has an owner, the owner's records are let through. -/
theorem owned_judgeEach (hexpiry : 0 < d.expiry.nanos) {ifIndex : UInt32}
    (h : d.judgeEach batch now = .ok (judged, d')) (howned : d.memory.Owned flow ifIndex now) :
    d'.memory.Owned flow ifIndex now ∧
      ∀ r : Record, r.id.logical = flow →
        (r ∈ (survivors judged).map Judgement.record ↔ r ∈ batch ∧ r.id.ifIndex = ifIndex) := by
  induction batch generalizing d judged with
  | nil =>
    obtain ⟨rfl, rfl⟩ := Prod.mk.inj (Except.ok.inj h)
    exact ⟨howned, by simp [survivors]⟩
  | cons s rest ih =>
    obtain ⟨isDuplicate, d₁, later, hs, hrest, rfl⟩ := judgeEach_cons_eq_ok.1 h
    obtain ⟨howned₁, htold⟩ := owned_judge hexpiry hs howned
    obtain ⟨m, rfl⟩ := judge_frame hs
    obtain ⟨howned', hlater⟩ := ih (d := { d with memory := m }) hexpiry hrest howned₁
    refine ⟨howned', fun r hflow => ?_⟩
    have hrest := hlater r hflow
    rw [survivors_cons]
    by_cases heq : r = s
    · subst heq
      rw [htold hflow]
      by_cases hne : ifIndex = r.id.ifIndex
      · simp [hne]
      · have hnot : r ∉ (survivors later).map Judgement.record := fun hmem =>
          hne (hrest.1 hmem).2.symm
        simpa [hne, Ne.symm hne] using hnot
    · cases isDuplicate with
      | true => simpa [heq] using hrest
      | false => simpa [heq] using hrest

/-- Of distinct records that are judged at one instant, at most one of each flow is let through. -/
theorem nodup_flows_survivors (hexpiry : 0 < d.expiry.nanos) (hids : (batch.map Record.id).Nodup)
    (h : d.judgeEach batch now = .ok (judged, d')) :
    ((survivors judged).map (·.record.id.logical)).Nodup := by
  induction batch generalizing d judged with
  | nil =>
    obtain ⟨rfl, rfl⟩ := Prod.mk.inj (Except.ok.inj h)
    exact List.nodup_nil
  | cons r rest ih =>
    obtain ⟨isDuplicate, d₁, later, hr, hrest, rfl⟩ := judgeEach_cons_eq_ok.1 h
    obtain ⟨hfirst, hids⟩ := List.nodup_cons.1 hids
    obtain ⟨m, rfl⟩ := judge_frame hr
    have hlater := ih (d := { d with memory := m }) hexpiry hids hrest
    rw [survivors_cons]
    cases isDuplicate with
    | true => exact hlater
    | false =>
      refine List.nodup_cons.2 ⟨fun hmem => ?_, hlater⟩
      -- Another one of the flow would be of the interface that now owns it, so it would be `r`.
      obtain ⟨j, hj, hflow⟩ := List.mem_map.1 hmem
      have howned := owned_of_judge hexpiry hr
      obtain ⟨-, hthrough⟩ := owned_judgeEach (d := { d with memory := m }) hexpiry hrest howned
      obtain ⟨hmem, hifIndex⟩ := (hthrough j.record hflow).1 (List.mem_map_of_mem hj)
      have hid : j.record.id = r.id := FlowId.eq_of_logical_eq hflow hifIndex
      exact hfirst (hid ▸ List.mem_map_of_mem hmem)

/-- A batch is judged if an ownership can be computed, or if none has to be. -/
theorem judgeEach_answers_iff :
    (∃ answer, d.judgeEach batch now = .ok answer) ↔
      now + d.expiry.nanos < Instant.limit ∨
        ∀ r ∈ batch, d.memory.ownedElsewhere r.id now = true := by
  constructor
  · rintro ⟨⟨judged, d'⟩, h⟩
    induction batch generalizing judged with
    | nil => exact .inr (by simp)
    | cons r rest ih =>
      obtain ⟨isDuplicate, d₁, later, hr, hrest, rfl⟩ := judgeEach_cons_eq_ok.1 h
      unfold judge at hr
      split at hr
      · next howned =>
        obtain ⟨-, rfl⟩ := Prod.mk.inj (Except.ok.inj hr)
        exact (ih later hrest).imp_right fun hall => List.forall_mem_cons.2 ⟨howned, hall⟩
      · obtain ⟨expiresAt, hadd, -⟩ := bind_eq_ok.1 hr
        exact .inl (Instant.add_eq_ok_iff.1 hadd).1
  · rintro (hfits | hall)
    · exact judgeEach_answers d batch now fun _ => hfits
    · induction batch with
      | nil => exact ⟨_, rfl⟩
      | cons r rest ih =>
        obtain ⟨hr, hrest⟩ := List.forall_mem_cons.1 hall
        obtain ⟨⟨later, d'⟩, hlater⟩ := ih hrest
        exact ⟨_, judgeEach_cons_eq_ok.2 ⟨true, d, later, if_pos hr, hlater, rfl⟩⟩

/-! ## The same records in another order -/

section Reordered

variable {batch' : Batch} {judged' : List Judgement} {d'' : Deduper}

/-- Ownerships end when they would have in the other order. -/
theorem expiry_judgeEach_perm (hperm : batch'.Perm batch)
    (h : d.judgeEach batch now = .ok (judged, d')) (h' : d.judgeEach batch' now = .ok (judged', d''))
    (flow : FlowId) :
    (d''.memory.lookup flow).map Owner.expiry = (d'.memory.lookup flow).map Owner.expiry := by
  by_cases hadmits : d.memory.Admits batch now flow
  · have hadmits' := (Memory.admits_perm hperm).2 hadmits
    rw [expiry_judgeEach_of_admits h hadmits, expiry_judgeEach_of_admits h' hadmits']
  · have hnone := mt (Memory.admits_perm hperm).1 hadmits
    rw [lookup_judgeEach_of_not_admits h hadmits, lookup_judgeEach_of_not_admits h' hnone]

theorem mem_flows_survivors_perm (hperm : batch'.Perm batch)
    (h : d.judgeEach batch now = .ok (judged, d')) (h' : d.judgeEach batch' now = .ok (judged', d''))
    (flow : FlowId) :
    flow ∈ (survivors judged').map (·.record.id.logical)
      ↔ flow ∈ (survivors judged).map (·.record.id.logical) := by
  rw [mem_flows_survivors h, mem_flows_survivors h', Memory.admits_perm hperm]

/-- A flow that has an owner keeps it in any order, and the same record of it is let through. -/
theorem owned_judgeEach_perm (hexpiry : 0 < d.expiry.nanos) (hperm : batch'.Perm batch)
    (h : d.judgeEach batch now = .ok (judged, d')) (h' : d.judgeEach batch' now = .ok (judged', d''))
    {ifIndex : UInt32} (howned : d.memory.Owned flow ifIndex now) :
    d''.memory.lookup flow = d'.memory.lookup flow ∧
      ∀ r : Record, r.id.logical = flow →
        (r ∈ (survivors judged').map Judgement.record ↔ r ∈ (survivors judged).map Judgement.record) := by
  obtain ⟨⟨owner, hlookup, hifIndex, -⟩, hthrough⟩ := owned_judgeEach hexpiry h howned
  obtain ⟨⟨owner', hlookup', hifIndex', -⟩, hthrough'⟩ := owned_judgeEach hexpiry h' howned
  constructor
  · have hends := expiry_judgeEach_perm hperm h h' flow
    rw [hlookup, hlookup'] at hends ⊢
    have hexpires : owner'.expiry = owner.expiry := Option.some.inj hends
    cases owner
    cases owner'
    simp_all
  · intro r hflow
    rw [hthrough r hflow, hthrough' r hflow, hperm.mem_iff]

/-- A flow without a record in the batch has nothing let through, and is remembered as it was. -/
theorem absent_judgeEach (h : d.judgeEach batch now = .ok (judged, d'))
    (habsent : ∀ r ∈ batch, r.id.logical ≠ flow) :
    d'.memory.lookup flow = d.memory.lookup flow ∧
      ∀ r : Record, r.id.logical = flow → r ∉ (survivors judged).map Judgement.record := by
  have hnone : ¬ d.memory.Admits batch now flow := by
    rintro ⟨r, hr, hflow, -⟩
    exact habsent r hr hflow
  refine ⟨lookup_judgeEach_of_not_admits h hnone, ?_⟩
  rintro r rfl hr
  obtain ⟨j, hj, rfl⟩ := List.mem_map.1 hr
  exact hnone ((mem_flows_survivors h).1 (List.mem_map_of_mem hj))

end Reordered

/-- Dropping judges the records one by one, after forgetting, and passes on the survivors. -/
theorem dedup_drop_eq_ok (hkind : d.kind = .firstCome) (hmode : d.mode = .drop) {out : Batch} :
    d.dedup batch now = .ok (out, d') ↔
      ∃ judged, { d with memory := d.memory.expire now }.judgeEach batch now = .ok (judged, d') ∧
        out = (survivors judged).map Judgement.record := by
  rw [dedup_eq_ok, judgeBatch_firstCome hkind, hmode]
  simp only [flatMap_output_drop_eq_survivors]

/-- Distinct records come in a batch, to a deduper that drops duplicates and remembers whatever
it may. Then in each order of the records it passes on at most one of each flow and all in
all the same flows, and remembers the same flows until the same instants. A flow that has an
owner keeps it, and the same record of it is passed on; so it can only be of a flow that has
none, and of which there are records in the batch, that another interface is let through. -/
theorem dedup_perm (hkind : d.kind = .firstCome) (hmode : d.mode = .drop)
    (hexpiry : 0 < d.expiry.nanos) (hids : (batch.map Record.id).Nodup) :
    (now + d.expiry.nanos < Instant.limit → ∃ answer, d.dedup batch now = .ok answer) ∧
    ∀ out d₁, d.dedup batch now = .ok (out, d₁) → ∀ batch', batch'.Perm batch →
      ∃ out' d₁', d.dedup batch' now = .ok (out', d₁') ∧
        (out.map (·.id.logical)).Nodup ∧ (out'.map (·.id.logical)).Nodup ∧
        (∀ flow, flow ∈ out'.map (·.id.logical) ↔ flow ∈ out.map (·.id.logical)) ∧
        (∀ flow, flow ∈ d₁'.memory.flows ↔ flow ∈ d₁.memory.flows) ∧
        (∀ flow, (d₁'.memory.lookup flow).map Owner.expiry
          = (d₁.memory.lookup flow).map Owner.expiry) ∧
        (∀ flow, (∃ owner, d.memory.lookup flow = some owner ∧ now < owner.expiry) ∨
            (∀ r ∈ batch, r.id.logical ≠ flow) →
          d₁'.memory.lookup flow = d₁.memory.lookup flow ∧
            ∀ r : Record, r.id.logical = flow → (r ∈ out' ↔ r ∈ out)) := by
  constructor
  · intro hfits
    obtain ⟨⟨judged, d'⟩, h⟩ := judgeEach_answers { d with memory := d.memory.expire now } batch now
      fun _ => hfits
    exact ⟨_, (dedup_drop_eq_ok hkind hmode).2 ⟨judged, h, rfl⟩⟩
  · intro out d₁ hdedup batch' hperm
    obtain ⟨judged, h, rfl⟩ := (dedup_drop_eq_ok hkind hmode).1 hdedup
    have hanswers := judgeEach_answers_iff.1 ⟨_, h⟩
    simp only [← hperm.mem_iff] at hanswers
    obtain ⟨⟨judged', d₁'⟩, h'⟩ :=
      judgeEach_answers_iff (d := { d with memory := d.memory.expire now }).2 hanswers
    have hids' : (batch'.map Record.id).Nodup := (hperm.map Record.id).nodup_iff.2 hids
    have hexpires := expiry_judgeEach_perm hperm h h'
    refine ⟨_, d₁', (dedup_drop_eq_ok hkind hmode).2 ⟨judged', h', rfl⟩, ?_⟩
    simp only [List.map_map]
    refine ⟨nodup_flows_survivors (d := { d with memory := d.memory.expire now }) hexpiry hids h,
      nodup_flows_survivors (d := { d with memory := d.memory.expire now }) hexpiry hids' h',
      mem_flows_survivors_perm hperm h h', fun flow => ?_, hexpires, fun flow hcase => ?_⟩
    · have hsome := congrArg Option.isSome (hexpires flow)
      rw [Option.isSome_map, Option.isSome_map] at hsome
      rw [Memory.mem_flows_iff_isSome, Memory.mem_flows_iff_isSome, hsome]
    · rcases hcase with ⟨owner, hlookup, hvalid⟩ | habsent
      · have howned : (d.memory.expire now).Owned flow owner.ifIndex now :=
          ⟨owner, Memory.lookup_expire hlookup hvalid, rfl, hvalid⟩
        exact owned_judgeEach_perm (d := { d with memory := d.memory.expire now }) hexpiry hperm h h'
          howned
      · obtain ⟨hkept, hnone⟩ := absent_judgeEach h habsent
        obtain ⟨hkept', hnone'⟩ :=
          absent_judgeEach h' fun r hr => habsent r (hperm.mem_iff.1 hr)
        refine ⟨hkept'.trans hkept.symm, fun r hflow => ?_⟩
        exact iff_of_false (hnone' r hflow) (hnone r hflow)

/-- What is remembered after the takeover: interface 4 owns the flow. -/
def takenOver (expiry : Duration) : Deduper :=
  { Deduper.empty .firstCome .drop expiry with memory := [(.tcpFrom 1 0, ⟨4, 26⟩)] }

/-- That flow, and one that nobody owns, both on two interfaces. -/
def contested : Batch := [recordFrom 1 3, recordFrom 1 4, recordFrom 5 3, recordFrom 5 4]

/-- Of the flow that nobody owns, the record that comes first is passed on. -/
theorem dedup_perm_contested :
    (∃ passed, dedupAll (.empty .firstCome .drop ⟨10, by decide⟩) takeover
      = .ok (passed, takenOver ⟨10, by decide⟩)) ∧
    (contested.map Record.id).Nodup ∧
    ∃ out d₁ out' d₁',
      (takenOver ⟨10, by decide⟩).dedup contested 20 = .ok (out, d₁) ∧
      out = [recordFrom 1 4, recordFrom 5 3] ∧
      (takenOver ⟨10, by decide⟩).dedup contested.reverse 20 = .ok (out', d₁') ∧
      out' = [recordFrom 5 4, recordFrom 1 4] ∧
      (∀ flow, flow ∈ out'.map (·.id.logical) ↔ flow ∈ out.map (·.id.logical)) ∧
      (∀ flow, flow ∈ d₁'.memory.flows ↔ flow ∈ d₁.memory.flows) := by
  have hids : (contested.map Record.id).Nodup := by decide
  have hperm := (@dedup_perm (takenOver ⟨10, by decide⟩) contested 20 rfl rfl (by decide) hids).2
    _ _ rfl contested.reverse (List.reverse_perm _)
  obtain ⟨out', d₁', hdedup, -, -, hout, hflows, -⟩ := hperm
  have hrecords : ((takenOver ⟨10, by decide⟩).dedup contested.reverse 20).map Prod.fst
      = .ok [recordFrom 5 4, recordFrom 1 4] := by rfl
  rw [hdedup] at hrecords
  exact ⟨⟨_, rfl⟩, hids, _, _, out', d₁', rfl, rfl, hdedup, Except.ok.inj hrecords, hout, hflows⟩

end Deduper

end Flowmeter
