-- SUMMARY: The deduper remembers the flows of the latest batch and those that still have an owner, and no others.
import Flowmeter.Proofs.Dedup.Run
import Mathlib.Data.Set.Card

/-!
# The window of the memory

Forgetting stops at the first owner that is still valid, and whoever is out of
order behind it would be remembered for good. Nobody is: an ownership is put at
the new end when it is extended, every extension lasts equally long, and time
does not go back. So ownerships end in the order in which they are listed, and
what is forgotten before a batch is all that has expired.
-/

namespace Flowmeter

namespace Dedup

open Lookup

/-! ## The flows of a memory -/

namespace Memory

/-- The flows that are remembered, the least recently extended first. -/
def flows (m : Memory) : List FlowId := m.map Prod.fst

theorem mem_flows_iff {m : Memory} {flow : FlowId} :
    flow ∈ m.flows ↔ ∃ owner, (flow, owner) ∈ m := by
  simp [flows]

theorem mem_flows_put {m : Memory} {flow flow' : FlowId} {owner : Owner} :
    flow' ∈ (m.put flow owner).flows ↔ flow' ∈ m.flows ∨ flow' = flow := by
  by_cases h : flow' = flow <;> simp [flows, put, h]

/-- Ownerships end in the order of the memory. -/
def Ascending (m : Memory) : Prop := m.Pairwise (·.2.expiry ≤ ·.2.expiry)

/-- What is forgotten is all that has expired. -/
theorem Ascending.expire_eq_filter {m : Memory} (h : m.Ascending) (now : Instant) :
    m.expire now = m.filter (now < ·.2.expiry) := by
  induction m with
  | nil => rfl
  | cons x m ih =>
    obtain ⟨hx, hm⟩ := List.pairwise_cons.1 h
    rw [expire, List.dropWhile_cons]
    split
    · next hover =>
      have hover : ¬ now < x.2.expiry := Nat.not_lt.2 (of_decide_eq_true hover)
      rw [List.filter_cons_of_neg (by simpa using hover)]
      exact ih hm
    · next hvalid =>
      have hvalid : now < x.2.expiry := by simpa using hvalid
      have hall : ∀ y ∈ x :: m, now < y.2.expiry := by
        intro y hy
        rcases List.mem_cons.1 hy with rfl | hy
        · exact hvalid
        · exact Nat.lt_of_lt_of_le hvalid (hx y hy)
      exact (List.filter_eq_self.2 fun y hy => decide_eq_true (hall y hy)).symm

end Memory

/-! ## What judging does to the order -/

/-- Ownerships end in the order of the memory, and none was extended after `now`. -/
structure InOrder (expiry : Duration) (m : Memory) (now : Instant) : Prop where
  ascending : m.Ascending
  soon : ∀ x ∈ m, x.2.expiry ≤ now + expiry.nanos

namespace InOrder

variable {expiry : Duration} {m : Memory} {now now' : Instant}

theorem nil (expiry : Duration) (now : Instant) : InOrder expiry [] now where
  ascending := .nil
  soon := by simp

theorem later (h : InOrder expiry m now) (hle : now ≤ now') : InOrder expiry m now' where
  ascending := h.ascending
  soon x hx := Nat.le_trans (h.soon x hx) (Nat.add_le_add_right hle _)

theorem sublist {m' : Memory} (h : InOrder expiry m now) (hsub : List.Sublist m' m) :
    InOrder expiry m' now where
  ascending := h.ascending.sublist hsub
  soon x hx := h.soon x (hsub.subset hx)

theorem expire (h : InOrder expiry m now) : InOrder expiry (m.expire now) now :=
  h.sublist (List.dropWhile_sublist _)

/-- What is extended at `now` ends last. -/
theorem put (h : InOrder expiry m now) (flow : FlowId) (ifIndex : UInt32) :
    InOrder expiry (m.put flow ⟨ifIndex, now + expiry.nanos⟩) now := by
  have hkept : InOrder expiry (m.filter (·.1 ≠ flow)) now := h.sublist List.filter_sublist
  constructor
  · refine List.pairwise_append.2 ⟨hkept.ascending, List.pairwise_singleton _ _, ?_⟩
    intro x hx y hy
    obtain rfl := List.mem_singleton.1 hy
    exact hkept.soon x hx
  · intro x hx
    rcases List.mem_append.1 hx with hx | hx
    · exact hkept.soon x hx
    · obtain rfl := List.mem_singleton.1 hx
      exact Nat.le_refl _

theorem judge {d d' : Deduper} (h : InOrder d.expiry d.memory now) {id : FlowId}
    {isDuplicate : Bool} (heq : d.judge id now = .ok (isDuplicate, d')) :
    InOrder d.expiry d'.memory now := by
  obtain ⟨-, -, rfl⟩ | ⟨-, -, rfl⟩ := Deduper.judge_cases heq
  · exact h
  · exact h.put _ _

theorem judgeEach {d d' : Deduper} {batch : Batch} {judged : List Judgement}
    (h : InOrder d.expiry d.memory now) (heq : d.judgeEach batch now = .ok (judged, d')) :
    InOrder d.expiry d'.memory now := by
  induction batch generalizing d judged with
  | nil =>
    obtain ⟨rfl, rfl⟩ := Prod.mk.inj (Except.ok.inj heq)
    exact h
  | cons r rest ih =>
    obtain ⟨isDuplicate, d₁, later, hr, hrest, rfl⟩ := Deduper.judgeEach_cons_eq_ok.1 heq
    have h₁ := h.judge hr
    obtain ⟨m, rfl⟩ := Deduper.judge_frame hr
    exact ih (d := { d with memory := m }) h₁ hrest

end InOrder

/-! ## What judging does to the flows -/

theorem mem_flows_judge {d d' : Deduper} {r : Record} {now : Instant} {isDuplicate : Bool}
    (heq : d.judge r.id now = .ok (isDuplicate, d')) (flow : FlowId) :
    flow ∈ d'.memory.flows ↔
      flow ∈ d.memory.flows ∨ Verdict.owns ⟨r, now, isDuplicate⟩ flow = true := by
  obtain ⟨rfl, -, rfl⟩ | ⟨rfl, -, rfl⟩ := Deduper.judge_cases heq
  · simp [Verdict.owns]
  · simp [Verdict.owns, Verdict.flow, Memory.mem_flows_put, eq_comm]

/-- The flows that a batch adds are those of its records that are no duplicates. -/
theorem mem_flows_judgeEach {d d' : Deduper} {batch : Batch} {now : Instant}
    {judged : List Judgement} (heq : d.judgeEach batch now = .ok (judged, d')) (flow : FlowId) :
    flow ∈ d'.memory.flows ↔
      flow ∈ d.memory.flows ∨ ∃ v ∈ judged.map (·.at now), v.owns flow = true := by
  induction batch generalizing d judged with
  | nil =>
    obtain ⟨rfl, rfl⟩ := Prod.mk.inj (Except.ok.inj heq)
    simp
  | cons r rest ih =>
    obtain ⟨isDuplicate, d₁, later, hr, hrest, rfl⟩ := Deduper.judgeEach_cons_eq_ok.1 heq
    rw [ih hrest, mem_flows_judge hr, or_assoc]
    simp [Judgement.at]

/-! ## What a batch leaves -/

/-- The owner of `flow` is of the latest batch, or its time is not up. -/
def Lingers (expiry : Duration) (history latest : List Verdict) (now : Instant) (flow : FlowId) :
    Prop :=
  ∃ o, IsLatestOwner (history ++ latest) flow o ∧ (o ∈ latest ∨ now < o.expiresAt expiry)

/-- A flow that the latest batch does not touch lingers as long as its owner is valid. -/
theorem lingers_iff {expiry : Duration} {history latest : List Verdict} {now : Instant}
    {flow : FlowId} :
    Lingers expiry history latest now flow ↔
      (∃ o, latestOwner history flow = some o ∧ now < o.expiresAt expiry) ∨
      ∃ v ∈ latest, v.owns flow = true := by
  simp only [Lingers, ← latestOwner_eq_some_iff, latestOwner_append]
  cases hlatest : latestOwner latest flow with
  | none =>
    have hnone := latestOwner_eq_none_iff.1 hlatest
    constructor
    · rintro ⟨o, ho, hmem | hvalid⟩
      · exact absurd (mem_of_latestOwner ho).2 (hnone o hmem)
      · exact .inl ⟨o, ho, hvalid⟩
    · rintro (⟨o, ho, hvalid⟩ | ⟨v, hv, howns⟩)
      · exact ⟨o, ho, .inr hvalid⟩
      · exact absurd howns (hnone v hv)
  | some o =>
    obtain ⟨hmem, howns⟩ := mem_of_latestOwner hlatest
    constructor
    · intro _
      exact .inr ⟨o, hmem, howns⟩
    · intro _
      exact ⟨o, rfl, .inl hmem⟩

/-- The deduper stands for the history at `now`, with its owners in order. -/
structure InStep (expiry : Duration) (d : Deduper) (history : List Verdict) (now : Instant) :
    Prop where
  kind_eq : d.kind = .firstCome
  expiry_eq : d.expiry = expiry
  remembers : Remembers expiry d.memory history now
  inOrder : InOrder expiry d.memory now

namespace InStep

variable {expiry : Duration} {d d' : Deduper} {history : List Verdict} {now now' : Instant}

theorem empty (mode : Mode) (expiry : Duration) (now : Instant) :
    InStep expiry (.empty .firstCome mode expiry) [] now where
  kind_eq := rfl
  expiry_eq := rfl
  remembers := .nil expiry now
  inOrder := .nil expiry now

theorem later (h : InStep expiry d history now) (hle : now ≤ now') :
    InStep expiry d history now' where
  kind_eq := h.kind_eq
  expiry_eq := h.expiry_eq
  remembers := h.remembers.later hle
  inOrder := h.inOrder.later hle

theorem judgeBatch (h : InStep expiry d history now) {batch : Batch} {judged : List Judgement}
    (heq : d.judgeBatch batch now = .ok (judged, d')) :
    InStep expiry d' (history ++ judged.map (·.at now)) now := by
  obtain ⟨hkind, rfl, hremembers, hinOrder⟩ := h
  have hremembers' := (judgeBatch_followsHistory.agrees heq hkind hremembers).2
  rw [Deduper.judgeBatch_firstCome hkind] at heq
  have hinOrder' := InOrder.judgeEach hinOrder.expire heq
  obtain ⟨-, m, rfl⟩ := Deduper.judgeEach_frame heq
  exact ⟨hkind, rfl, hremembers', hinOrder'⟩

/-- A run keeps the deduper in step, as time does not go back. -/
theorem judgeAll (h : InStep expiry d history now) {feeds : List Feed}
    {verdicts : List (List Verdict)} (hordered : Ordered feeds) (hfrom : ∀ f ∈ feeds, now ≤ f.now)
    (hto : ∀ f ∈ feeds, f.now ≤ now') (hle : now ≤ now')
    (heq : judgeAll Deduper.judgeBatch d feeds = .ok (verdicts, d')) :
    InStep expiry d' (history ++ verdicts.flatten) now' := by
  induction feeds generalizing d history now verdicts with
  | nil =>
    obtain ⟨rfl, rfl⟩ := Prod.mk.inj (Except.ok.inj heq)
    simpa using h.later hle
  | cons f feeds ih =>
    obtain ⟨hf, hfeeds⟩ := List.pairwise_cons.1 hordered
    obtain ⟨judged, d₁, later, hone, hrest, rfl⟩ := judgeAll_cons_eq_ok.1 heq
    have h₁ := (h.later (hfrom f List.mem_cons_self)).judgeBatch hone
    have hto' : ∀ g ∈ feeds, g.now ≤ now' := fun g hg => hto g (List.mem_cons_of_mem f hg)
    have hend := ih h₁ hfeeds hf hto' (hto f List.mem_cons_self) hrest
    simpa using hend

/-- After forgetting, the flows that are left are those with a valid owner. -/
theorem mem_flows_expire (h : InStep expiry d history now) (flow : FlowId) :
    flow ∈ (d.memory.expire now).flows ↔
      ∃ o, latestOwner history flow = some o ∧ now < o.expiresAt expiry := by
  rw [h.inOrder.ascending.expire_eq_filter, Memory.mem_flows_iff]
  constructor
  · rintro ⟨owner, hmem⟩
    obtain ⟨hmem, hvalid⟩ := List.mem_filter.1 hmem
    have hlookup := (lookup_eq_some_iff_mem h.remembers.keys_nodup).2 hmem
    obtain ⟨o, ho, rfl⟩ := h.remembers.latest flow owner hlookup
    exact ⟨o, ho, of_decide_eq_true hvalid⟩
  · rintro ⟨o, ho, hvalid⟩
    have hlookup := h.remembers.valid flow o ho hvalid
    have hmem := (lookup_eq_some_iff_mem h.remembers.keys_nodup).1 hlookup
    exact ⟨_, List.mem_filter.2 ⟨hmem, decide_eq_true hvalid⟩⟩

/-- After a batch, the flows that are remembered are those that linger. -/
theorem mem_flows_judgeBatch (h : InStep expiry d history now) {batch : Batch}
    {judged : List Judgement} (heq : d.judgeBatch batch now = .ok (judged, d')) (flow : FlowId) :
    flow ∈ d'.memory.flows ↔ Lingers expiry history (judged.map (·.at now)) now flow := by
  rw [Deduper.judgeBatch_firstCome h.kind_eq] at heq
  rw [mem_flows_judgeEach heq, lingers_iff]
  exact or_congr_left (h.mem_flows_expire flow)

/-- Each flow that is remembered counts once. -/
theorem size_eq_ncard (h : InStep expiry d history now) :
    d.size = {flow | flow ∈ d.memory.flows}.ncard := by
  have hset : {flow | flow ∈ d.memory.flows} = (d.memory.flows.toFinset : Set FlowId) := by
    ext flow
    simp
  have hnodup : d.memory.flows.Nodup := h.remembers.keys_nodup
  rw [hset, Set.ncard_coe_finset, List.toFinset_card_of_nodup hnodup]
  exact (List.length_map _).symm

end InStep

/-! ## Whole runs -/

/-- After any batch of a run, the owners that are remembered end in the order in
which they were extended. Their flows are those whose latest record that was no
duplicate was of that batch or came less than an expiry ago, and each counts
once. -/
theorem dedupAll_remembers_window (mode : Mode) (expiry : Duration) {feeds : List Feed} {f : Feed}
    (hordered : Ordered (feeds ++ [f])) :
    (Fits expiry (feeds ++ [f]) →
      ∃ answer, dedupAll (.empty .firstCome mode expiry) (feeds ++ [f]) = .ok answer) ∧
    (∀ batches d, dedupAll (.empty .firstCome mode expiry) (feeds ++ [f]) = .ok (batches, d) →
      ∃ earlier latest,
        judgeAll Deduper.judgeBatch (.empty .firstCome mode expiry) (feeds ++ [f])
          = .ok (earlier ++ [latest], d) ∧
        batches = (earlier ++ [latest]).map (·.flatMap (Verdict.output mode)) ∧
        latest.map (fun v => (v.record, v.arrived)) = f.arrivals ∧
        d.memory.Pairwise (·.2.expiry ≤ ·.2.expiry) ∧
        (∀ flow, flow ∈ d.memory.flows ↔
          ∃ o, IsLatestOwner (earlier.flatten ++ latest) flow o ∧
            (o ∈ latest ∨ f.now < o.arrived + expiry.nanos)) ∧
        d.size = {flow | ∃ o, IsLatestOwner (earlier.flatten ++ latest) flow o ∧
          (o ∈ latest ∨ f.now < o.arrived + expiry.nanos)}.ncard) := by
  constructor
  · intro hfits
    obtain ⟨d, hrun⟩ := judgeBatch_followsHistory.judgeAll_empty mode hordered hfits
    exact ⟨_, dedupAll_eq_ok.2 ⟨_, hrun, rfl⟩⟩
  · intro batches d hdedup
    obtain ⟨verdicts, hrun, hbatches⟩ := dedupAll_eq_ok.1 hdedup
    obtain ⟨earlier, d₁, judged, hearlier, hlast, rfl⟩ := judgeAll_snoc_eq_ok hrun
    obtain ⟨hbefore, -, hcross⟩ := List.pairwise_append.1 hordered
    have hto : ∀ g ∈ feeds, g.now ≤ f.now := fun g hg => hcross g hg f (List.mem_singleton_self f)
    have hstep : InStep expiry d₁ earlier.flatten f.now :=
      (InStep.empty mode expiry 0).judgeAll hbefore (fun _ _ => Nat.zero_le _) hto
        (Nat.zero_le _) hearlier
    have hend := hstep.judgeBatch hlast
    have hflows := hstep.mem_flows_judgeBatch hlast
    refine ⟨earlier, judged.map (Judgement.at · f.now), hrun, hbatches, ?_,
      hend.inOrder.ascending, hflows, ?_⟩
    · rw [Feed.arrivals, ← (Deduper.judgeBatch_frame hlast).1, List.map_map, List.map_map]
      rfl
    · rw [hend.size_eq_ncard]
      exact congrArg Set.ncard (Set.ext hflows)

/-- Four nanoseconds after the takeover, a third flow is seen on interface 3. -/
def afterTakeover : Feed := ⟨[recordFrom 3 3], 20⟩

/-- The flow that was taken over and the new one are remembered, the other one is forgotten. -/
theorem dedupAll_remembers_window_takeover :
    ∃ batches d earlier latest,
      dedupAll (.empty .firstCome .drop ⟨10, by decide⟩) (takeover ++ [afterTakeover])
        = .ok (batches, d) ∧
      d.memory = [(.tcpFrom 1 0, ⟨4, 26⟩), (.tcpFrom 3 0, ⟨3, 30⟩)] ∧
      batches = (earlier ++ [latest]).map (·.flatMap (Verdict.output .drop)) ∧
      d.size = {flow | ∃ o, IsLatestOwner (earlier.flatten ++ latest) flow o ∧
        (o ∈ latest ∨ 20 < o.arrived + 10)}.ncard := by
  have hordered : Ordered (takeover ++ [afterTakeover]) := by
    simp [Ordered, takeover, afterTakeover]
  have hwindow := dedupAll_remembers_window .drop ⟨10, by decide⟩ hordered
  obtain ⟨earlier, latest, -, hbatches, -, -, -, hsize⟩ := hwindow.2 _ _ rfl
  exact ⟨_, _, earlier, latest, rfl, rfl, hbatches, hsize⟩

end Dedup

end Flowmeter
