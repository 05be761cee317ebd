-- SUMMARY: What a deduper that drops duplicates has passed on, another one like it passes on unchanged.
import Flowmeter.Proofs.Dedup.Modes

/-!
# Feeding what was passed on

A duplicate leaves no trace in the memory, neither in the owners nor in their
order. So a deduper that gets what another has passed on comes from the same
memory to the same memory with each batch, and finds no duplicate in it. This
has nothing to do with the order of time: both forget at the same instants.
-/

namespace Flowmeter

namespace Dedup

/-! ## What is left of a batch -/

/-- The judgements on the records that are no duplicates. -/
def survivors (judged : List Judgement) : List Judgement := judged.filter (!·.isDuplicate)

theorem survivors_cons (j : Judgement) (judged : List Judgement) :
    survivors (j :: judged) = if j.isDuplicate then survivors judged else j :: survivors judged := by
  cases h : j.isDuplicate <;> simp [survivors, h]

theorem survivors_survivors (judged : List Judgement) :
    survivors (survivors judged) = survivors judged := by
  simp [survivors]

/-- Dropping passes on the survivors. -/
theorem flatMap_output_drop_eq_survivors (judged : List Judgement) :
    judged.flatMap (Judgement.output .drop) = (survivors judged).map Judgement.record := by
  induction judged with
  | nil => rfl
  | cons j judged ih =>
    rw [List.flatMap_cons, ih, survivors_cons]
    cases h : j.isDuplicate <;> simp [Judgement.output, h]

end Dedup

open Dedup

namespace Deduper

variable {d d' : Deduper} {batch out : Batch} {now : Instant} {judged : List Judgement}

/-- Without its duplicates a batch is judged as it was with them, from the same
memory to the same memory. -/
theorem judgeEach_survivors (h : d.judgeEach batch now = .ok (judged, d')) :
    d.judgeEach ((survivors judged).map Judgement.record) now = .ok (survivors judged, d') := by
  induction batch generalizing d judged with
  | nil =>
    obtain ⟨rfl, rfl⟩ := Prod.mk.inj (Except.ok.inj h)
    rfl
  | cons r rest ih =>
    obtain ⟨isDuplicate, d₁, later, hr, hrest, rfl⟩ := judgeEach_cons_eq_ok.1 h
    have hlater := ih hrest
    rw [survivors_cons]
    obtain ⟨rfl, -, rfl⟩ | ⟨rfl, -, -⟩ := judge_cases hr
    · exact hlater
    · exact judgeEach_cons_eq_ok.2 ⟨false, _, survivors later, hr, hlater, rfl⟩

theorem judgeBatch_survivors (hkind : d.kind = .firstCome)
    (h : d.judgeBatch batch now = .ok (judged, d')) :
    d.judgeBatch ((survivors judged).map Judgement.record) now = .ok (survivors judged, d') := by
  rw [judgeBatch_firstCome hkind] at h ⊢
  exact judgeEach_survivors h

/-- What is passed on of a batch would be passed on whole. -/
theorem dedup_dropped (hkind : d.kind = .firstCome) (hmode : d.mode = .drop)
    (h : d.dedup batch now = .ok (out, d')) : d.dedup out now = .ok (out, d') := by
  obtain ⟨judged, hjudged, rfl⟩ := dedup_eq_ok.1 h
  rw [hmode, flatMap_output_drop_eq_survivors]
  refine dedup_eq_ok.2 ⟨survivors judged, judgeBatch_survivors hkind hjudged, ?_⟩
  rw [hmode, flatMap_output_drop_eq_survivors, survivors_survivors]

end Deduper

/-! ## Whole runs -/

namespace Dedup

/-- Batches in place of those of the feeds, each at the instant of its feed. -/
def refeed (feeds : List Feed) (batches : List Batch) : List Feed :=
  List.zipWith (fun f batch => { f with batch }) feeds batches

theorem dedupAll_cons_eq_ok {d d' : Deduper} {f : Feed} {feeds : List Feed} {batches : List Batch} :
    dedupAll d (f :: feeds) = .ok (batches, d') ↔
      ∃ batch d₁ later, d.dedup f.batch f.now = .ok (batch, d₁) ∧
        dedupAll d₁ feeds = .ok (later, d') ∧ batches = batch :: later := by
  rw [dedupAll]
  constructor
  · intro h
    obtain ⟨⟨batch, d₁⟩, hf, h⟩ := bind_eq_ok.1 h
    obtain ⟨⟨later, d₂⟩, hfeeds, h⟩ := bind_eq_ok.1 h
    obtain ⟨rfl, rfl⟩ := Prod.mk.inj (Except.ok.inj h)
    exact ⟨batch, d₁, later, hf, hfeeds, rfl⟩
  · rintro ⟨batch, d₁, later, hf, hfeeds, rfl⟩
    exact bind_eq_ok.2 ⟨_, hf, bind_eq_ok.2 ⟨_, hfeeds, rfl⟩⟩

/-- A run is a run as far as it goes. -/
theorem dedupAll_take {d d' : Deduper} {feeds : List Feed} {batches : List Batch}
    (h : dedupAll d feeds = .ok (batches, d')) (n : Nat) :
    ∃ dₙ, dedupAll d (feeds.take n) = .ok (batches.take n, dₙ) := by
  induction feeds generalizing d batches n with
  | nil =>
    obtain ⟨rfl, rfl⟩ := Prod.mk.inj (Except.ok.inj h)
    exact ⟨d, by simp [dedupAll]⟩
  | cons f feeds ih =>
    cases n with
    | zero => exact ⟨d, rfl⟩
    | succ n =>
      obtain ⟨batch, d₁, later, hf, hfeeds, rfl⟩ := dedupAll_cons_eq_ok.1 h
      obtain ⟨dₙ, htake⟩ := ih hfeeds n
      exact ⟨dₙ, dedupAll_cons_eq_ok.2 ⟨batch, d₁, later.take n, hf, htake, rfl⟩⟩

/-- What a run has passed on would be passed on whole, from the same memory to the same memory. -/
theorem dedupAll_refeed {d d' : Deduper} {feeds : List Feed} {batches : List Batch}
    (hkind : d.kind = .firstCome) (hmode : d.mode = .drop)
    (h : dedupAll d feeds = .ok (batches, d')) :
    dedupAll d (refeed feeds batches) = .ok (batches, d') := by
  induction feeds generalizing d batches with
  | nil =>
    obtain ⟨rfl, rfl⟩ := Prod.mk.inj (Except.ok.inj h)
    rfl
  | cons f feeds ih =>
    obtain ⟨batch, d₁, later, hf, hfeeds, rfl⟩ := dedupAll_cons_eq_ok.1 h
    have hagain := Deduper.dedup_dropped hkind hmode hf
    obtain ⟨judged, hjudged, -⟩ := Deduper.dedup_eq_ok.1 hf
    obtain ⟨-, m, rfl⟩ := Deduper.judgeBatch_frame hjudged
    have hlater := ih (d := { d with memory := m }) hkind hmode hfeeds
    exact dedupAll_cons_eq_ok.2 ⟨batch, _, later, hagain, hlater, rfl⟩

/-- Batches at any instants go through a deduper that drops duplicates, and what it passes on
of each goes at the same instant through another one, with the same settings and empty at
first. The second passes on all that it gets. After each batch both remember the same
flows, with the same owners and expiries and in the same order. -/
theorem dedupAll_drop_idempotent (expiry : Duration) (feeds : List Feed) :
    (Fits expiry feeds →
      ∃ answer, dedupAll (.empty .firstCome .drop expiry) feeds = .ok answer) ∧
    (∀ batches d, dedupAll (.empty .firstCome .drop expiry) feeds = .ok (batches, d) →
      ∀ n, ∃ dₙ,
        dedupAll (.empty .firstCome .drop expiry) (feeds.take n) = .ok (batches.take n, dₙ) ∧
        dedupAll (.empty .firstCome .drop expiry) ((refeed feeds batches).take n)
          = .ok (batches.take n, dₙ)) := by
  constructor
  · intro hfits
    obtain ⟨verdicts, d, hrun⟩ := judgeBatch_followsHistory.judgeAll_answers
      (d := .empty .firstCome .drop expiry) rfl hfits
    exact ⟨_, dedupAll_eq_ok.2 ⟨verdicts, hrun, rfl⟩⟩
  · intro batches d hrun n
    obtain ⟨dₙ, htake⟩ := dedupAll_take hrun n
    refine ⟨dₙ, htake, ?_⟩
    rw [refeed, List.take_zipWith]
    exact dedupAll_refeed rfl rfl htake

/-- Four of the nine records are dropped. What is left goes through again, also the record
that came when the clock had been set back. -/
theorem dedupAll_drop_idempotent_setBack :
    Fits ⟨10, by decide⟩ setBack ∧
    ∃ batches d,
      dedupAll (.empty .firstCome .drop ⟨10, by decide⟩) setBack = .ok (batches, d) ∧
      batches.map List.length = [2, 1, 0, 1, 1] ∧
      ∀ n, ∃ dₙ,
        dedupAll (.empty .firstCome .drop ⟨10, by decide⟩) (setBack.take n)
          = .ok (batches.take n, dₙ) ∧
        dedupAll (.empty .firstCome .drop ⟨10, by decide⟩) ((refeed setBack batches).take n)
          = .ok (batches.take n, dₙ) := by
  have hfits : Fits ⟨10, by decide⟩ setBack := by
    simp [Fits, arrivals, Feed.arrivals, setBack, takeover, Instant.limit, UInt64.size,
      nanosPerSecond]
  obtain ⟨hanswers, hagain⟩ := dedupAll_drop_idempotent ⟨10, by decide⟩ setBack
  obtain ⟨⟨batches, d⟩, hrun⟩ := hanswers hfits
  have hlengths : (dedupAll (.empty .firstCome .drop ⟨10, by decide⟩) setBack).map
      (fun run => run.1.map List.length) = .ok [2, 1, 0, 1, 1] := by rfl
  rw [hrun] at hlengths
  exact ⟨hfits, batches, d, hrun, Except.ok.inj hlengths, hagain batches d hrun⟩

end Dedup

end Flowmeter
