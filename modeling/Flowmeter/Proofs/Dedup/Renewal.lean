-- SUMMARY: An owner whose records keep coming loses its flow at no other instant than when its ownership ends.
import Flowmeter.Proofs.Dedup.Uniqueness

/-!
# Renewal

Each record of an owner that comes before its ownership ends renews it. If the
next one always comes within a span that is no longer than the expiry, the flow
can be lost only to a record that is judged when just this span has passed, and
ahead of the owner's own record of that instant. An expiry that is longer than
the span leaves no such instant.
-/

namespace Flowmeter

namespace Dedup

/-- From `since` up to `till`, each record of `id` is followed by another one within `span`. -/
def Returns (span : Nat) (id : FlowId) (since till : Instant) (history : List Verdict) : Prop :=
  ∀ o ∈ history, o.record.id = id → since ≤ o.arrived → o.arrived + span ≤ till →
    ∃ u ∈ history, u.record.id = id ∧ o.arrived < u.arrived ∧ u.arrived ≤ o.arrived + span

theorem Returns.mono {span : Nat} {id : FlowId} {since till till' : Instant}
    {history : List Verdict} (h : Returns span id since till history) (hle : till' ≤ till) :
    Returns span id since till' history := by
  intro o ho hid hsince htill
  exact h o ho hid hsince (Nat.le_trans htill hle)

theorem IsLatestOwner.unique {history : List Verdict} {flow : FlowId} {o o' : Verdict}
    (h : IsLatestOwner history flow o) (h' : IsLatestOwner history flow o') : o = o' :=
  Option.some.inj ((latestOwner_eq_some_iff.2 h).symm.trans (latestOwner_eq_some_iff.2 h'))

namespace IsHistory

variable {expiry : Duration} {history before after : List Verdict} {o u v w : Verdict}

/-- While no record of another interface is let through, the owner stays the same. -/
theorem exists_latestOwner_of_kept (h : IsHistory expiry history) {mid : List Verdict}
    (hsplit : history = before ++ v :: mid ++ after) (hv : v.isDuplicate = false)
    (hkept : ∀ u ∈ mid, u.flow = v.flow → u.ifIndex ≠ v.ifIndex → u.isDuplicate = true) :
    ∃ o, IsLatestOwner (before ++ v :: mid) v.flow o ∧ o.record.id = v.record.id ∧
      v.arrived ≤ o.arrived := by
  have howns : v.owns v.flow = true := by simp [Verdict.owns, hv]
  have hlatest : latestOwner (before ++ v :: mid) v.flow
      = (latestOwner mid v.flow).or (some v) := by
    rw [List.append_cons, latestOwner_append, latestOwner_snoc, if_pos howns]
  cases hmid : latestOwner mid v.flow with
  | none =>
    rw [hmid, Option.none_or] at hlatest
    exact ⟨v, latestOwner_eq_some_iff.1 hlatest, rfl, Nat.le_refl _⟩
  | some o =>
    rw [hmid, Option.some_or] at hlatest
    obtain ⟨older, newer, rfl, hflow, ho, -⟩ := latestOwner_eq_some_iff.1 hmid
    have hifIndex : o.ifIndex = v.ifIndex := by
      refine Decidable.byContradiction fun hne => ?_
      have hdup := hkept o (List.mem_append_right _ List.mem_cons_self) hflow hne
      rw [ho] at hdup
      cases hdup
    have hsplit : history = before ++ v :: (older ++ o :: (newer ++ after)) := by simp [hsplit]
    exact ⟨o, latestOwner_eq_some_iff.1 hlatest, FlowId.eq_of_logical_eq hflow hifIndex,
      h.arrived_le hsplit⟩

/-- No record of an owner is a duplicate. -/
theorem isDuplicate_of_owner (h : IsHistory expiry history)
    (hsplit : history = before ++ u :: after) (ho : IsLatestOwner before u.flow o)
    (hsame : o.ifIndex = u.ifIndex) : u.isDuplicate = false := by
  refine Bool.eq_false_iff.2 fun hdup => ?_
  obtain ⟨o', ho', hne, -⟩ := (h.told before u after hsplit).1 hdup
  cases ho.unique ho'
  exact hne hsame

/-- Once an ownership has ended, any record of the flow is let through. -/
theorem isDuplicate_of_expired (h : IsHistory expiry history)
    (hsplit : history = before ++ w :: after) (ho : IsLatestOwner before w.flow o)
    (hexpired : o.expiresAt expiry ≤ w.arrived) : w.isDuplicate = false := by
  refine Bool.eq_false_iff.2 fun hdup => ?_
  obtain ⟨o', ho', -, hvalid⟩ := (h.told before w after hsplit).1 hdup
  cases ho.unique ho'
  exact Nat.not_lt.2 hexpired hvalid

/-- A record of an owner is no later than the latest one. -/
theorem arrived_le_latestOwner (h : IsHistory expiry history) (hsplit : history = before ++ after)
    {flow : FlowId} (ho : IsLatestOwner before flow o) (hu : u ∈ before)
    (hid : u.record.id = o.record.id) : u.arrived ≤ o.arrived := by
  obtain ⟨older, newer, rfl, hflow, ho, hnewer⟩ := ho
  rcases List.mem_append.1 hu with hu | hu
  · obtain ⟨older, mid, rfl⟩ := List.append_of_mem hu
    have hsplit : history = older ++ u :: (mid ++ o :: (newer ++ after)) := by simp [hsplit]
    exact h.arrived_le hsplit
  rcases List.mem_cons.1 hu with rfl | hu
  · exact Nat.le_refl _
  · -- A later record of the owner would be no duplicate, so it would be the latest one.
    have huflow : u.flow = flow := (congrArg FlowId.logical hid).trans hflow
    have hdup := hnewer u hu huflow
    obtain ⟨mid, newer', rfl⟩ := List.append_of_mem hu
    have hsplit : history = (older ++ o :: mid) ++ u :: (newer' ++ after) := by simp [hsplit]
    have howner : IsLatestOwner (older ++ o :: mid) u.flow o := by
      refine ⟨older, mid, rfl, hflow.trans huflow.symm, ho, fun n hn hn' => ?_⟩
      exact hnewer n (List.mem_append_left _ hn) (hn'.trans huflow)
    rw [h.isDuplicate_of_owner hsplit howner (congrArg FlowId.ifIndex hid).symm] at hdup
    cases hdup

/-- An owner that returns loses its flow when its ownership ends, and to a record
that stands ahead of its own. -/
theorem arrived_eq_of_returns (h : IsHistory expiry history) {span : Nat}
    (hsplit : history = before ++ w :: after) (hw : w.isDuplicate = false)
    (ho : IsLatestOwner before w.flow o) (hne : o.ifIndex ≠ w.ifIndex)
    {since : Instant} (hsince : since ≤ o.arrived)
    (hreturns : Returns span o.record.id since w.arrived history) (hspan : span ≤ expiry.nanos) :
    w.arrived = o.arrived + span ∧ expiry.nanos = span ∧
      ∃ u ∈ after, u.record.id = o.record.id ∧ u.arrived = w.arrived := by
  have hexpired : o.arrived + expiry.nanos ≤ w.arrived := h.expiresAt_le hsplit hw ho hne
  have hlate : o.arrived + span ≤ w.arrived :=
    Nat.le_trans (Nat.add_le_add_left hspan _) hexpired
  have homem : o ∈ history := by
    obtain ⟨older, newer, rfl, -⟩ := ho
    simp [hsplit]
  obtain ⟨u, hu, hid, hlater, hsoon⟩ := hreturns o homem rfl hsince hlate
  rw [hsplit] at hu
  rcases List.mem_append.1 hu with hu | hu
  · have hearlier := h.arrived_le_latestOwner hsplit ho hu hid
    exact absurd hearlier (Nat.not_le.2 hlater)
  rcases List.mem_cons.1 hu with rfl | hu
  · exact absurd (congrArg FlowId.ifIndex hid).symm hne
  · obtain ⟨mid, after', rfl⟩ := List.append_of_mem hu
    have hbehind : w.arrived ≤ u.arrived := h.arrived_le hsplit
    have hwhen : w.arrived = o.arrived + span :=
      Nat.le_antisymm (Nat.le_trans hbehind hsoon) hlate
    refine ⟨hwhen, ?_, u, hu, hid, Nat.le_antisymm (hwhen ▸ hsoon) hbehind⟩
    exact Nat.le_antisymm (Nat.le_of_add_le_add_left (hwhen ▸ hexpired)) hspan

/-- An owner that returns within less than the expiry keeps its flow. The
induction is on how many records lie between. -/
theorem isDuplicate_of_returns (h : IsHistory expiry history) {span : Nat} {mid : List Verdict}
    (hsplit : history = before ++ v :: (mid ++ w :: after)) (hv : v.isDuplicate = false)
    (hflow : w.flow = v.flow) (hne : w.ifIndex ≠ v.ifIndex)
    (hreturns : Returns span v.record.id v.arrived w.arrived history)
    (hspan : span < expiry.nanos) : w.isDuplicate = true := by
  induction hlength : mid.length using Nat.strongRecOn generalizing mid w after with
  | ind n ih =>
    have hkept : ∀ u ∈ mid, u.flow = v.flow → u.ifIndex ≠ v.ifIndex → u.isDuplicate = true := by
      intro u hu huflow hune
      obtain ⟨older, newer, rfl⟩ := List.append_of_mem hu
      have hsplitu : history = before ++ v :: (older ++ u :: (newer ++ w :: after)) := by
        simp [hsplit]
      have hsplitw : history = before ++ v :: older ++ u :: (newer ++ w :: after) := by
        simp [hsplit]
      have hshorter : older.length < n := by
        simp only [List.length_append, List.length_cons] at hlength
        omega
      exact ih older.length hshorter hsplitu huflow hune
        (hreturns.mono (h.arrived_le hsplitw)) rfl
    have hsplit' : history = (before ++ v :: mid) ++ w :: after := by simp [hsplit]
    obtain ⟨o, ho, hid, hsince⟩ := h.exists_latestOwner_of_kept hsplit' hv hkept
    refine Bool.of_not_eq_false fun hw => ?_
    have hone : o.ifIndex ≠ w.ifIndex := by
      rw [Verdict.ifIndex, hid]
      exact hne.symm
    rw [← hid] at hreturns
    obtain ⟨-, hend, -⟩ := h.arrived_eq_of_returns hsplit' hw (hflow ▸ ho) hone hsince hreturns
      (Nat.le_of_lt hspan)
    exact absurd hend (Nat.ne_of_gt hspan)

end IsHistory

end Dedup

end Flowmeter
