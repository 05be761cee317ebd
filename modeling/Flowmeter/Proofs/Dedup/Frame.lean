-- SUMMARY: What judging leaves alone: the records it is given, and the deduper but for its memory.
import Flowmeter.Dedup
import Flowmeter.Proofs.Time.Overflow

/-!
# What judging leaves alone
-/

namespace Flowmeter

namespace Deduper

open Dedup

/-- A duplicate changes nothing; any other record makes its interface the owner of its flow. -/
theorem judge_cases {d d' : Deduper} {id : FlowId} {now : Instant} {isDuplicate : Bool}
    (h : d.judge id now = .ok (isDuplicate, d')) :
    (isDuplicate = true ∧ d.memory.ownedElsewhere id now = true ∧ d' = d) ∨
    (isDuplicate = false ∧ d.memory.ownedElsewhere id now = false ∧
      d' = { d with memory := d.memory.put id.logical ⟨id.ifIndex, now + d.expiry.nanos⟩ }) := by
  unfold judge at h
  split at h
  · next howned =>
    obtain ⟨rfl, rfl⟩ := Prod.mk.inj (Except.ok.inj h)
    exact .inl ⟨rfl, howned, rfl⟩
  · next howned =>
    obtain ⟨expiresAt, hadd, h⟩ := bind_eq_ok.1 h
    obtain ⟨-, rfl⟩ := Instant.add_eq_ok_iff.1 hadd
    obtain ⟨rfl, rfl⟩ := Prod.mk.inj (Except.ok.inj h)
    exact .inr ⟨rfl, Bool.eq_false_iff.2 howned, rfl⟩

theorem judge_frame {d d' : Deduper} {id : FlowId} {now : Instant} {isDuplicate : Bool}
    (h : d.judge id now = .ok (isDuplicate, d')) : ∃ m, d' = { d with memory := m } := by
  obtain ⟨-, -, rfl⟩ | ⟨-, -, rfl⟩ := judge_cases h
  · exact ⟨_, rfl⟩
  · exact ⟨_, rfl⟩

theorem judgeEach_cons_eq_ok {d d' : Deduper} {r : Record} {rest : Batch} {now : Instant}
    {judged : List Judgement} :
    d.judgeEach (r :: rest) now = .ok (judged, d') ↔
      ∃ isDuplicate d₁ later, d.judge r.id now = .ok (isDuplicate, d₁) ∧
        d₁.judgeEach rest now = .ok (later, d') ∧ judged = ⟨r, isDuplicate⟩ :: later := by
  rw [judgeEach]
  constructor
  · intro h
    obtain ⟨⟨isDuplicate, d₁⟩, hr, h⟩ := bind_eq_ok.1 h
    obtain ⟨⟨later, d₂⟩, hrest, h⟩ := bind_eq_ok.1 h
    obtain ⟨rfl, rfl⟩ := Prod.mk.inj (Except.ok.inj h)
    exact ⟨isDuplicate, d₁, later, hr, hrest, rfl⟩
  · rintro ⟨isDuplicate, d₁, later, hr, hrest, rfl⟩
    exact bind_eq_ok.2 ⟨_, hr, bind_eq_ok.2 ⟨_, hrest, rfl⟩⟩

theorem judgeEach_frame {d d' : Deduper} {batch : Batch} {now : Instant} {judged : List Judgement}
    (h : d.judgeEach batch now = .ok (judged, d')) :
    judged.map Judgement.record = batch ∧ ∃ m, d' = { d with memory := m } := by
  induction batch generalizing d judged with
  | nil =>
    obtain ⟨rfl, rfl⟩ := Prod.mk.inj (Except.ok.inj h)
    exact ⟨rfl, d.memory, rfl⟩
  | cons r rest ih =>
    obtain ⟨isDuplicate, d₁, later, hr, hrest, rfl⟩ := judgeEach_cons_eq_ok.1 h
    obtain ⟨m, rfl⟩ := judge_frame hr
    obtain ⟨hrecords, hd⟩ := ih hrest
    exact ⟨by rw [List.map_cons, hrecords], hd⟩

theorem judgeBatch_firstCome {d : Deduper} (hkind : d.kind = .firstCome) (batch : Batch)
    (now : Instant) :
    d.judgeBatch batch now = { d with memory := d.memory.expire now }.judgeEach batch now := by
  cases d
  cases hkind
  rfl

theorem judgeBatch_frame {d d' : Deduper} {batch : Batch} {now : Instant} {judged : List Judgement}
    (h : d.judgeBatch batch now = .ok (judged, d')) :
    judged.map Judgement.record = batch ∧ ∃ m, d' = { d with memory := m } := by
  unfold judgeBatch at h
  split at h
  · obtain ⟨rfl, rfl⟩ := Prod.mk.inj (Except.ok.inj h)
    exact ⟨by simp [Function.comp_def], d.memory, rfl⟩
  · obtain ⟨hrecords, m, rfl⟩ := judgeEach_frame h
    exact ⟨hrecords, m, rfl⟩

/-- The batch passed on is made of the judgements. -/
theorem dedup_eq_ok {d d' : Deduper} {batch out : Batch} {now : Instant} :
    d.dedup batch now = .ok (out, d') ↔
      ∃ judged, d.judgeBatch batch now = .ok (judged, d') ∧
        out = judged.flatMap (Judgement.output d.mode) := by
  rw [dedup]
  constructor
  · intro h
    obtain ⟨⟨judged, d₁⟩, hjudge, h⟩ := bind_eq_ok.1 h
    obtain ⟨-, m, rfl⟩ := judgeBatch_frame hjudge
    obtain ⟨rfl, rfl⟩ := Prod.mk.inj (Except.ok.inj h)
    exact ⟨judged, hjudge, rfl⟩
  · rintro ⟨judged, hjudge, rfl⟩
    obtain ⟨-, m, rfl⟩ := judgeBatch_frame hjudge
    exact bind_eq_ok.2 ⟨_, hjudge, rfl⟩

end Deduper

end Flowmeter
