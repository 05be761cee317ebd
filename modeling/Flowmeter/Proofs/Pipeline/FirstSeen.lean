-- SUMMARY: Of a flow that nobody owns and that leaves the cache on several interfaces at once, the interface that saw it first is let through.
import Flowmeter.Proofs.Cache.Departures
import Flowmeter.Proofs.Dedup.Reordering
import Flowmeter.Proofs.Pipeline.Batches

/-!
# First seen

An interface should get a flow because it saw the flow first, but the deduper
knows nothing of when a flow was seen: of the records of a flow that nobody
owns it lets the first one through that it meets. So the two stages have to
agree on an order. An expiry evicts by creation, and flows created at one
instant by identity. Identities of one flow differ in the interface alone,
which is compared last; so the record that the deduper meets first is the one
that was in the cache first, and of those the one of the lowest interface.
-/

namespace Flowmeter

/-- Identities of one flow are in the order of their interfaces. -/
theorem FlowId.cmp_of_logical_eq {id id' : FlowId} (h : id.logical = id'.logical) :
    id.cmp id' = compare id.ifIndex id'.ifIndex := by
  cases id
  cases id'
  simp only [logical, FlowId.mk.injEq] at h
  simp [cmp, compareLex, compareOn, h]

/-! ## The order of a batch -/

namespace Cache

namespace WellFormed

variable {c c' : Cache} {now : Instant} {batch : Batch}

/-- What an expiry evicts, as entries in their order. -/
theorem expire_in_order (h : c.WellFormed) (heq : c.expire now = .ok (batch, c')) :
    ∃ evicted : List (FlowId × Entry), batch = evicted.map (leave c.clock) ∧
      evicted.Pairwise Precedes ∧ ∀ x ∈ evicted, c.find? x.1 = some x.2 := by
  obtain ⟨dropped, horder, hbatch, -, -⟩ := h.expireUpTo_evicts heq
  obtain ⟨hranks, hleave⟩ := h.entriesOf_front horder hbatch
  refine ⟨c.entriesOf batch, hleave.symm, ?_, fun x hx => ?_⟩
  · have hascending := h.order_ascending
    rw [horder, ← hranks] at hascending
    have hfront := (List.pairwise_append.1 hascending).1
    exact (List.pairwise_map.1 hfront).imp compare_rankOf_eq_lt_iff.1
  · obtain ⟨r, -, hr⟩ := List.mem_filterMap.1 hx
    obtain ⟨e, hfind, rfl⟩ := Option.map_eq_some_iff.1 hr
    exact hfind

end WellFormed

/-- The first entry of a flow was created earliest, or together with another one and on a lower
interface. -/
theorem first_of_find? {xs : List (FlowId × Entry)} (hsorted : xs.Pairwise Precedes)
    {flow : FlowId} {x : FlowId × Entry} (hfirst : xs.find? (·.1.logical = flow) = some x) :
    ∀ y ∈ xs, y.1.logical = flow → y = x ∨ x.2.created < y.2.created ∨
      x.2.created = y.2.created ∧ x.1.ifIndex < y.1.ifIndex := by
  obtain ⟨hx, before, after, rfl, hbefore⟩ := List.find?_eq_some_iff_append.1 hfirst
  have hflow : x.1.logical = flow := of_decide_eq_true hx
  intro y hy hyflow
  rcases List.mem_append.1 hy with hy | hy
  · have hnot := hbefore y hy
    simp [hyflow] at hnot
  · rcases List.mem_cons.1 hy with rfl | hy
    · exact .inl rfl
    · obtain ⟨-, hsorted, -⟩ := List.pairwise_append.1 hsorted
      have hprecedes := (List.pairwise_cons.1 hsorted).1 y hy
      rw [Precedes, FlowId.cmp_of_logical_eq (hflow.trans hyflow.symm),
        Std.compare_eq_lt] at hprecedes
      exact .inr hprecedes

end Cache

/-! ## Flows that nobody owns -/

namespace Dedup.Memory

variable {m m' : Memory} {flow : FlowId} {now : Instant}

/-- Nobody owns `flow` at `now`. -/
def Free (m : Memory) (flow : FlowId) (now : Instant) : Prop :=
  ∀ owner, m.lookup flow = some owner → owner.expiry ≤ now

theorem Free.ownedElsewhere_eq {id : FlowId} (h : m.Free id.logical now) :
    m.ownedElsewhere id now = false := by
  rw [ownedElsewhere]
  cases hlookup : m.lookup id.logical with
  | none => rfl
  | some owner =>
    have hover : ¬ now < owner.expiry := Nat.not_lt.2 (h owner hlookup)
    simp [hover]

/-- A flow stays free when another one gets an owner. -/
theorem Free.put {flow' : FlowId} (h : m.Free flow now) (hne : flow ≠ flow') (owner : Owner) :
    (m.put flow' owner).Free flow now := by
  intro owner' hlookup
  rw [lookup_put_of_ne _ hne] at hlookup
  exact h owner' hlookup

/-- Forgetting reveals no owner, so a flow is free if the time of all its owners is up. -/
theorem free_expire (h : ∀ owner, (flow, owner) ∈ m → owner.expiry ≤ now) :
    (m.expire now).Free flow now := by
  intro owner hlookup
  obtain ⟨before, after, heq, -⟩ := List.lookup_eq_some_iff.1 hlookup
  apply h owner
  apply (List.dropWhile_sublist _).subset
  exact heq ▸ List.mem_append_right _ List.mem_cons_self

end Dedup.Memory

namespace Deduper

open Dedup

variable {d d' : Deduper} {batch : Batch} {now : Instant} {judged : List Judgement} {flow : FlowId}

/-- The first record of a free flow is the first of the flow that is let through, and its interface
owns the flow from then on. -/
theorem first_of_free (hexpiry : 0 < d.expiry.nanos) (h : d.judgeEach batch now = .ok (judged, d'))
    (hfree : d.memory.Free flow now) {r : Record}
    (hfirst : batch.find? (·.id.logical = flow) = some r) :
    (survivors judged).find? (·.record.id.logical = flow) = some ⟨r, false⟩ ∧
      d'.memory.Owned flow r.id.ifIndex now := by
  induction batch generalizing d judged with
  | nil => cases hfirst
  | cons s rest ih =>
    obtain ⟨isDuplicate, d₁, later, hs, hrest, rfl⟩ := judgeEach_cons_eq_ok.1 h
    rw [survivors_cons]
    by_cases hflow : s.id.logical = flow
    · obtain rfl : s = r := by simpa [hflow] using hfirst
      subst hflow
      have hthrough : isDuplicate = false := by
        obtain ⟨-, howned, -⟩ | ⟨rfl, -, -⟩ := judge_cases hs
        · rw [hfree.ownedElsewhere_eq] at howned
          cases howned
        · rfl
      subst hthrough
      have howned := owned_of_judge hexpiry hs
      obtain ⟨m, rfl⟩ := judge_frame hs
      exact ⟨by simp, (owned_judgeEach (d := { d with memory := m }) hexpiry hrest howned).1⟩
    · have hfirst : rest.find? (·.id.logical = flow) = some r := by simpa [hflow] using hfirst
      obtain ⟨rfl, -, rfl⟩ | ⟨rfl, -, rfl⟩ := judge_cases hs
      · exact ih hexpiry hrest hfree hfirst
      · have hfree₁ := hfree.put (Ne.symm hflow) ⟨s.id.ifIndex, now + d.expiry.nanos⟩
        obtain ⟨hfind, howned⟩ := ih
          (d := { d with memory := d.memory.put s.id.logical ⟨s.id.ifIndex, now + d.expiry.nanos⟩ })
          hexpiry hrest hfree₁ hfirst
        exact ⟨by simpa [hflow] using hfind, howned⟩

/-- Of distinct records the first of a free flow is the only one of the flow that is let
through. -/
theorem filter_of_free (hexpiry : 0 < d.expiry.nanos) (hids : (batch.map Record.id).Nodup)
    (h : d.judgeEach batch now = .ok (judged, d')) (hfree : d.memory.Free flow now) {r : Record}
    (hfirst : batch.find? (·.id.logical = flow) = some r) :
    judged.filter (fun j => j.record.id.logical = flow ∧ j.isDuplicate = false) = [⟨r, false⟩] := by
  have hsurvivors : judged.filter (fun j => j.record.id.logical = flow ∧ j.isDuplicate = false)
      = (survivors judged).filter (·.record.id.logical = flow) := by
    simp [survivors, List.filter_filter]
  obtain ⟨hfind, -⟩ := first_of_free hexpiry h hfree hfirst
  have hnodup := nodup_flows_survivors hexpiry hids h
  obtain ⟨hr, before, after, heq, hbefore⟩ := List.find?_eq_some_iff_append.1 hfind
  have hr : r.id.logical = flow := of_decide_eq_true hr
  rw [heq, List.map_append, List.map_cons, List.nodup_append, List.nodup_cons] at hnodup
  obtain ⟨-, ⟨hother, -⟩, -⟩ := hnodup
  have hbefore : before.filter (·.record.id.logical = flow) = [] :=
    List.filter_eq_nil_iff.2 fun j hj => by simpa using hbefore j hj
  have hafter : after.filter (·.record.id.logical = flow) = [] := by
    refine List.filter_eq_nil_iff.2 fun j hj hflow => ?_
    exact hother (List.mem_map.2 ⟨j, hj, (of_decide_eq_true hflow).trans hr.symm⟩)
  rw [hsurvivors, heq, List.filter_append, hbefore]
  simp [hr, hafter]

/-- A batch with records of a flow that nobody owns is judged just if an ownership can begin. -/
theorem judgeBatch_answers_iff_of_free (hkind : d.kind = .firstCome)
    (hfree : (d.memory.expire now).Free flow now) (hsome : ∃ r ∈ batch, r.id.logical = flow) :
    (∃ answer, d.judgeBatch batch now = .ok answer) ↔ now + d.expiry.nanos < Instant.limit := by
  rw [judgeBatch_firstCome hkind, judgeEach_answers_iff]
  refine or_iff_left fun hall => ?_
  obtain ⟨r, hr, rfl⟩ := hsome
  have howned := hall r hr
  rw [hfree.ownedElsewhere_eq] at howned
  cases howned

/-- The first record of a free flow in a batch of distinct records is the one that is let through,
and its interface owns the flow for an expiry. -/
theorem judgeBatch_of_free (hkind : d.kind = .firstCome) (hexpiry : 0 < d.expiry.nanos)
    (hids : (batch.map Record.id).Nodup) (h : d.judgeBatch batch now = .ok (judged, d'))
    (hfree : (d.memory.expire now).Free flow now) {r : Record}
    (hfirst : batch.find? (·.id.logical = flow) = some r) :
    judged.filter (fun j => j.record.id.logical = flow ∧ j.isDuplicate = false) = [⟨r, false⟩] ∧
      d'.memory.lookup flow = some ⟨r.id.ifIndex, now + d.expiry.nanos⟩ := by
  rw [judgeBatch_firstCome hkind] at h
  generalize hd : { d with memory := d.memory.expire now } = d₁ at h
  have hmemory : d₁.memory = d.memory.expire now := hd ▸ rfl
  have hsame : d₁.expiry = d.expiry := hd ▸ rfl
  rw [← hmemory] at hfree
  rw [← hsame] at hexpiry ⊢
  refine ⟨filter_of_free hexpiry hids h hfree hfirst, ?_⟩
  obtain ⟨-, owner, hlookup, hifIndex, -⟩ := first_of_free hexpiry h hfree hfirst
  have hadmits : d₁.memory.Admits batch now flow := by
    have hflow : r.id.logical = flow := by simpa using List.find?_some hfirst
    subst hflow
    exact ⟨r, List.mem_of_find?_eq_some hfirst, rfl, hfree.ownedElsewhere_eq⟩
  have hends := expiry_judgeEach_of_admits h hadmits
  rw [hlookup] at hends ⊢
  rw [← hifIndex, ← Option.some.inj hends]

end Deduper

/-! ## From the cache to the deduper -/

open Cache Dedup

/-- A batch that an expiry evicted from a cache, in whatever state, comes to a deduper that looks
for duplicates and remembers whatever it may, at an instant when nobody owns some flow of the
batch. The batch is judged just if an ownership can begin at that instant. Then exactly one
record of the flow is let through: that of the entry that was created earliest and, of those
created at one instant, of the lowest interface. From then on that interface owns the flow. -/
theorem Cache.Reachable.first_seen_let_through {max : Nat} {timeout : Duration} {clock : Clock}
    {c c' : Cache} (h : Reachable max timeout clock c) {swept : Instant} {batch : Batch}
    (hexpire : c.expire swept = .ok (batch, c')) {d : Deduper} (hkind : d.kind = .firstCome)
    (hexpiry : 0 < d.expiry.nanos) {flow : FlowId} {now : Instant}
    (hfree : ∀ owner, (flow, owner) ∈ d.memory → owner.expiry ≤ now)
    (hsome : ∃ r ∈ batch, r.id.logical = flow) :
    ((∃ answer, d.judgeBatch batch now = .ok answer) ↔ now + d.expiry.nanos < Instant.limit) ∧
    ∀ judged d', d.judgeBatch batch now = .ok (judged, d') →
      d.dedup batch now = .ok (judged.flatMap (Judgement.output d.mode), d') ∧
      judged.map Judgement.record = batch ∧
      ∃ id e, c.find? id = some e ∧
        judged.filter (fun j => j.record.id.logical = flow ∧ j.isDuplicate = false)
          = [⟨.ofMetrics clock id e.metrics, false⟩] ∧
        (∀ r ∈ batch, r.id.logical = flow → ∃ e', c.find? r.id = some e' ∧
          (r.id = id ∨ e.created < e'.created ∨
            e.created = e'.created ∧ id.ifIndex < r.id.ifIndex)) ∧
        d'.memory.lookup flow = some ⟨id.ifIndex, now + d.expiry.nanos⟩ := by
  have hc := h.wellFormed
  obtain rfl : c.clock = clock := h.sameSettings.clock_eq
  have hfree := Memory.free_expire hfree
  refine ⟨Deduper.judgeBatch_answers_iff_of_free hkind hfree hsome, fun judged d' hjudge => ?_⟩
  refine ⟨Deduper.dedup_eq_ok.2 ⟨judged, hjudge, rfl⟩, (Deduper.judgeBatch_frame hjudge).1, ?_⟩
  have hids := hc.ids_nodup_expire hexpire
  obtain ⟨evicted, rfl, hsorted, hentries⟩ := hc.expire_in_order hexpire
  obtain ⟨x, hfirst⟩ : ∃ x, evicted.find? (·.1.logical = flow) = some x := by
    obtain ⟨r, hr, hflow⟩ := hsome
    obtain ⟨x, hx, rfl⟩ := List.mem_map.1 hr
    exact Option.isSome_iff_exists.1 (List.find?_isSome.2 ⟨x, hx, decide_eq_true hflow⟩)
  have hmet : (evicted.map (leave c.clock)).find? (·.id.logical = flow) = some (leave c.clock x) := by
    rw [List.find?_map]
    exact congrArg (Option.map (leave c.clock)) hfirst
  obtain ⟨hthrough, howner⟩ :=
    Deduper.judgeBatch_of_free hkind hexpiry hids hjudge hfree hmet
  refine ⟨x.1, x.2, hentries x (List.mem_of_find?_eq_some hfirst), hthrough, ?_, howner⟩
  intro r hr hflow
  obtain ⟨y, hy, rfl⟩ := List.mem_map.1 hr
  refine ⟨y.2, hentries y hy, ?_⟩
  exact (first_of_find? hsorted hfirst y hy hflow).imp_left (congrArg Prod.fst)

/-- A flow that three interfaces saw, two of them first and at one instant, and another flow. -/
def Cache.sawTogether : Cache :=
  (((((((empty 8 (.ofSeconds 5) ⟨0⟩).insert ⟨.tcpFrom 1 4, .ofPacket 60 5⟩ 10).2.insert
    ⟨.tcpFrom 2 4, .ofPacket 70 6⟩ 10).2.insert ⟨.tcpFrom 1 3, .ofPacket 80 7⟩ 10).2.insert
    ⟨.tcpFrom 1 2, .ofPacket 90 8⟩ 11).2.insert ⟨.tcpFrom 1 4, .ofPacket 50 9⟩ 12).2)

/-- It remembers that interface 9 owned the flow until 20, behind an owner whose time is not up. -/
def Deduper.withStaleOwner : Deduper :=
  { Deduper.empty .firstCome .mark ⟨15, by decide⟩ with
    memory := [(.tcpFrom 2 0, ⟨4, 6000000000⟩), (.tcpFrom 1 0, ⟨9, 20⟩)] }

/-- The flow goes to interface 3, which saw it no earlier than interface 4. -/
theorem Cache.first_seen_let_through_sawTogether :
    Reachable 8 (.ofSeconds 5) ⟨0⟩ sawTogether ∧
    (∀ owner, (.tcpFrom 1 0, owner) ∈ Deduper.withStaleOwner.memory → owner.expiry ≤ 5000000020) ∧
    ∃ batch c' judged d' e,
      sawTogether.expire 5000000015 = .ok (batch, c') ∧
      batch.map Record.id = [.tcpFrom 1 3, .tcpFrom 1 4, .tcpFrom 2 4, .tcpFrom 1 2] ∧
      Deduper.withStaleOwner.judgeBatch batch 5000000020 = .ok (judged, d') ∧
      sawTogether.find? (.tcpFrom 1 3) = some e ∧
      judged.filter (fun j => j.record.id.logical = .tcpFrom 1 0 ∧ j.isDuplicate = false)
        = [⟨.ofMetrics ⟨0⟩ (.tcpFrom 1 3) e.metrics, false⟩] ∧
      d'.memory.lookup (.tcpFrom 1 0) = some ⟨3, 5000000035⟩ := by
  have hreach : Reachable 8 (.ofSeconds 5) ⟨0⟩ sawTogether :=
    .insert _ _ (.insert _ _ (.insert _ _ (.insert _ _ (.insert _ _ .empty))))
  have hfree : ∀ owner, (.tcpFrom 1 0, owner) ∈ Deduper.withStaleOwner.memory →
      owner.expiry ≤ 5000000020 := by
    intro owner hmem
    rcases List.mem_cons.1 hmem with heq | hmem
    · have hother : FlowId.tcpFrom 1 0 ≠ .tcpFrom 2 0 := by decide
      exact absurd (congrArg Prod.fst heq) hother
    · rw [(Prod.mk.inj (List.mem_singleton.1 hmem)).2]
      decide
  have hexpire : sawTogether.expire 5000000015 = .ok _ := rfl
  obtain ⟨-, htold⟩ := hreach.first_seen_let_through hexpire
    (d := Deduper.withStaleOwner) rfl (by decide) hfree ⟨_, List.mem_cons_self, rfl⟩
  obtain ⟨-, -, id, e, hfind, hjudged, -, howner⟩ := htold _ _ rfl
  have hid : [FlowId.tcpFrom 1 3] = [id] :=
    congrArg (List.map fun j : Judgement => j.record.id) hjudged
  obtain rfl := List.singleton_inj.1 hid
  exact ⟨hreach, hfree, _, _, _, _, e, rfl, rfl, rfl, hfind, hjudged, howner⟩

end Flowmeter
