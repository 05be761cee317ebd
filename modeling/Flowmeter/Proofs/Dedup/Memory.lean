-- SUMMARY: The memory of the deduper stands for its whole history, so forgetting changes no verdict.
import Flowmeter.Proofs.Dedup.Frame
import Flowmeter.Proofs.Dedup.History

/-!
# Memory and history

The memory of the deduper is related to the history of its verdicts, and all
that the deduper does keeps the relation: forgetting, judging a record, judging
a batch. What it says of a record is then what the history says.
-/

namespace Flowmeter

namespace Dedup

open Lookup

/-! ## Looking up an owner -/

namespace Memory

variable (m : Memory)

theorem lookup_put (flow flow' : FlowId) (owner : Owner) :
    (m.put flow owner).lookup flow' = if flow' = flow then some owner else m.lookup flow' := by
  have hgone : (m.filter (·.1 ≠ flow)).lookup flow = none := by
    rw [lookup_filter_ne, if_pos rfl]
  rw [put, lookup_append_singleton _ hgone, lookup_filter_ne]
  split <;> rfl

theorem lookup_put_of_ne {flow flow' : FlowId} (hne : flow' ≠ flow) (owner : Owner) :
    (m.put flow owner).lookup flow' = m.lookup flow' := by
  rw [lookup_put, if_neg hne]

end Memory

/-! ## The relation -/

/-- The owner that the record made. -/
def Verdict.owner (expiry : Duration) (v : Verdict) : Owner := ⟨v.ifIndex, v.expiresAt expiry⟩

/-- `m` stands for `history` at `now`. -/
structure Remembers (expiry : Duration) (m : Memory) (history : List Verdict) (now : Instant) :
    Prop where
  keys_nodup : (m.map Prod.fst).Nodup
  /-- Whoever is remembered was the latest to become the owner. -/
  latest : ∀ flow owner, m.lookup flow = some owner →
    ∃ o, latestOwner history flow = some o ∧ o.owner expiry = owner
  /-- Whoever still owns a flow is remembered. -/
  valid : ∀ flow o, latestOwner history flow = some o → now < o.expiresAt expiry →
    m.lookup flow = some (o.owner expiry)

namespace Remembers

variable {expiry : Duration} {m : Memory} {history : List Verdict} {now now' : Instant}

theorem nil (expiry : Duration) (now : Instant) : Remembers expiry [] [] now where
  keys_nodup := List.nodup_nil
  latest := by simp
  valid := by simp [latestOwner_nil]

theorem later (h : Remembers expiry m history now) (hle : now ≤ now') :
    Remembers expiry m history now' :=
  { h with valid := fun flow o ho hvalid => h.valid flow o ho (Nat.lt_of_le_of_lt hle hvalid) }

/-- Both see the same owner, or none whose time is not up. -/
theorem ownedElsewhere_eq (h : Remembers expiry m history now) (id : FlowId) :
    m.ownedElsewhere id now = ownedElsewhere expiry history id now := by
  simp only [Memory.ownedElsewhere, ownedElsewhere]
  cases hm : m.lookup id.logical with
  | some owner =>
    obtain ⟨o, ho, rfl⟩ := h.latest _ _ hm
    simp only [ho, Verdict.owner]
    rfl
  | none =>
    cases ho : latestOwner history id.logical with
    | none => rfl
    | some o =>
      have hover : ¬ now < o.expiresAt expiry := by
        intro hvalid
        rw [h.valid _ _ ho hvalid] at hm
        cases hm
      simp [hover]

/-- Only owners whose time is up are forgotten. -/
theorem expire (h : Remembers expiry m history now) : Remembers expiry (m.expire now) history now := by
  have hsub : List.Sublist (m.expire now) m := List.dropWhile_sublist _
  have hnodup : ((m.expire now).map Prod.fst).Nodup := h.keys_nodup.sublist (hsub.map _)
  refine ⟨hnodup, fun flow owner hlookup => ?_, fun flow o ho hvalid => ?_⟩
  · have hmem := (lookup_eq_some_iff_mem hnodup).1 hlookup
    exact h.latest flow owner ((lookup_eq_some_iff_mem h.keys_nodup).2 (hsub.subset hmem))
  · have hmem := (lookup_eq_some_iff_mem h.keys_nodup).1 (h.valid flow o ho hvalid)
    refine (lookup_eq_some_iff_mem hnodup).2 ?_
    rw [← List.takeWhile_append_dropWhile (p := fun x => x.2.expiry ≤ now) (l := m)] at hmem
    rcases List.mem_append.1 hmem with hdropped | hkept
    · have hover := List.all_eq_true.1 List.all_takeWhile _ hdropped
      exact absurd hvalid (Nat.not_lt.2 (of_decide_eq_true hover))
    · exact hkept

/-- A duplicate changes neither. -/
theorem duplicate (h : Remembers expiry m history now) {v : Verdict} (hv : v.isDuplicate = true) :
    Remembers expiry m (history ++ [v]) now := by
  have howner : ∀ flow, latestOwner (history ++ [v]) flow = latestOwner history flow := by
    intro flow
    rw [latestOwner_snoc, Verdict.owns, hv]
    simp
  exact ⟨h.keys_nodup, fun flow owner => howner flow ▸ h.latest flow owner,
    fun flow o => howner flow ▸ h.valid flow o⟩

/-- Any other record makes its interface the owner of its flow in both. -/
theorem put (h : Remembers expiry m history now) {v : Verdict} (hv : v.isDuplicate = false) :
    Remembers expiry (m.put v.flow (v.owner expiry)) (history ++ [v]) now := by
  have hkeys : ((m.filter (·.1 ≠ v.flow)).map Prod.fst).Nodup :=
    h.keys_nodup.sublist (List.filter_sublist.map _)
  have hgone : (m.filter (·.1 ≠ v.flow)).lookup v.flow = none := by
    rw [lookup_filter_ne, if_pos rfl]
  have howner : ∀ flow, latestOwner (history ++ [v]) flow
      = if flow = v.flow then some v else latestOwner history flow := by
    intro flow
    rw [latestOwner_snoc, Verdict.owns, hv]
    simp [eq_comm]
  refine ⟨keys_nodup_append_singleton hkeys _ hgone, fun flow owner => ?_, fun flow o => ?_⟩
  · rw [Memory.lookup_put, howner]
    split
    · rintro ⟨⟩
      exact ⟨v, rfl, rfl⟩
    · exact h.latest flow owner
  · rw [Memory.lookup_put, howner]
    split
    · rintro ⟨⟩ -
      rfl
    · exact h.valid flow o

/-- Judging a record agrees with the history. -/
theorem judge {d d' : Deduper} (h : Remembers d.expiry d.memory history now) (r : Record)
    {isDuplicate : Bool} (heq : d.judge r.id now = .ok (isDuplicate, d')) :
    isDuplicate = ownedElsewhere d.expiry history r.id now ∧
      Remembers d.expiry d'.memory (history ++ [⟨r, now, isDuplicate⟩]) now := by
  obtain ⟨rfl, howned, rfl⟩ | ⟨rfl, howned, rfl⟩ := Deduper.judge_cases heq
  · rw [h.ownedElsewhere_eq] at howned
    exact ⟨howned.symm, h.duplicate rfl⟩
  · rw [h.ownedElsewhere_eq] at howned
    exact ⟨howned.symm, h.put (v := ⟨r, now, false⟩) rfl⟩

end Remembers

/-! ## Judges of batches -/

/-- Judges the records of a batch at an instant. -/
abbrev Judge := Deduper → Batch → Instant → Except TimeOverflow (List Judgement × Deduper)

/-- Whatever the judge says agrees with the history, and it goes on remembering it. -/
structure FollowsHistory (judge : Judge) : Prop where
  keeps : ∀ {d d' : Deduper} {batch : Batch} {now : Instant} {judged : List Judgement},
    judge d batch now = .ok (judged, d') → ∃ m, d' = { d with memory := m }
  agrees : ∀ {d d' : Deduper} {batch : Batch} {now : Instant} {judged : List Judgement}
      {history : List Verdict},
    judge d batch now = .ok (judged, d') → d.kind = .firstCome →
    Remembers d.expiry d.memory history now →
    judged.map (·.at now) = judgeByHistory d.expiry history (batch.map (·, now)) ∧
      Remembers d.expiry d'.memory (history ++ judged.map (·.at now)) now
  /-- It has something to say as long as no ownership outlasts time. -/
  answers : ∀ (d : Deduper) (batch : Batch) (now : Instant), d.kind = .firstCome →
    (batch ≠ [] → now + d.expiry.nanos < Instant.limit) → ∃ answer, judge d batch now = .ok answer

theorem judgeEach_agrees {d d' : Deduper} {batch : Batch} {now : Instant} {judged : List Judgement}
    {history : List Verdict} (heq : d.judgeEach batch now = .ok (judged, d'))
    (h : Remembers d.expiry d.memory history now) :
    judged.map (·.at now) = judgeByHistory d.expiry history (batch.map (·, now)) ∧
      Remembers d.expiry d'.memory (history ++ judged.map (·.at now)) now := by
  induction batch generalizing d history judged with
  | nil =>
    obtain ⟨rfl, rfl⟩ := Prod.mk.inj (Except.ok.inj heq)
    exact ⟨rfl, by simpa using h⟩
  | cons r rest ih =>
    obtain ⟨isDuplicate, d₁, later, hr, hrest, rfl⟩ := Deduper.judgeEach_cons_eq_ok.1 heq
    obtain ⟨hagrees, h₁⟩ := h.judge r hr
    obtain ⟨m, rfl⟩ := Deduper.judge_frame hr
    obtain ⟨hlater, h₂⟩ := ih hrest h₁
    refine ⟨?_, ?_⟩
    · rw [List.map_cons, hlater, Judgement.at, hagrees]
      rfl
    · simpa [Judgement.at] using h₂

theorem judge_answers (d : Deduper) (id : FlowId) {now : Instant}
    (hfits : now + d.expiry.nanos < Instant.limit) : ∃ answer, d.judge id now = .ok answer := by
  unfold Deduper.judge
  split
  · exact ⟨_, rfl⟩
  · exact ⟨_, bind_eq_ok.2 ⟨_, Instant.add_eq_ok_iff.2 ⟨hfits, rfl⟩, rfl⟩⟩

theorem judgeEach_answers (d : Deduper) (batch : Batch) (now : Instant)
    (hfits : batch ≠ [] → now + d.expiry.nanos < Instant.limit) :
    ∃ answer, d.judgeEach batch now = .ok answer := by
  induction batch generalizing d with
  | nil => exact ⟨_, rfl⟩
  | cons r rest ih =>
    have hlimit : now + d.expiry.nanos < Instant.limit := hfits (List.cons_ne_nil _ _)
    obtain ⟨⟨isDuplicate, d₁⟩, hr⟩ := judge_answers d r.id hlimit
    obtain ⟨m, rfl⟩ := Deduper.judge_frame hr
    obtain ⟨⟨later, d₂⟩, hrest⟩ := ih { d with memory := m } fun _ => hlimit
    exact ⟨_, Deduper.judgeEach_cons_eq_ok.2 ⟨_, _, _, hr, hrest, rfl⟩⟩

/-- A judge that never forgets. -/
theorem judgeEach_followsHistory : FollowsHistory Deduper.judgeEach where
  keeps heq := (Deduper.judgeEach_frame heq).2
  agrees heq _ h := judgeEach_agrees heq h
  answers d batch now _ hfits := judgeEach_answers d batch now hfits

/-- The deduper forgets before each batch, which makes no difference. -/
theorem judgeBatch_followsHistory : FollowsHistory Deduper.judgeBatch where
  keeps heq := (Deduper.judgeBatch_frame heq).2
  agrees heq hkind h := by
    rw [Deduper.judgeBatch_firstCome hkind] at heq
    have hagrees := judgeEach_agrees heq h.expire
    exact hagrees
  answers d batch now hkind hfits := by
    rw [Deduper.judgeBatch_firstCome hkind]
    exact judgeEach_answers { d with memory := d.memory.expire now } batch now hfits

end Dedup

end Flowmeter
