-- SUMMARY: Marking and dropping duplicates side by side: the same memory, and one output is part of the other.
import Flowmeter.Proofs.Dedup.Run

/-!
# Modes

What becomes of a duplicate is decided after it has been judged, and judging
never asks. So two dedupers that differ in nothing but their mode agree on
every record and remember the same, however often time goes back. The one that
marks passes on all it gets; the one that drops passes on what the other has
left unmarked.
-/

namespace Flowmeter

open Dedup

/-! ## Judging does not depend on the mode -/

namespace Deduper

def withMode (mode : Mode) (d : Deduper) : Deduper := { d with mode }

/-- An answer of the deduper, given by one with another mode. -/
def answerWithMode {α : Type} (mode : Mode) (answer : α × Deduper) : α × Deduper :=
  (answer.1, answer.2.withMode mode)

variable (mode : Mode) (d : Deduper) (now : Instant)

theorem judge_withMode (id : FlowId) :
    (d.withMode mode).judge id now = (d.judge id now).map (answerWithMode mode) := by
  unfold judge withMode
  split
  · rfl
  · cases Instant.add now d.expiry <;> rfl

theorem judgeEach_withMode (batch : Batch) :
    (d.withMode mode).judgeEach batch now = (d.judgeEach batch now).map (answerWithMode mode) := by
  induction batch generalizing d with
  | nil => rfl
  | cons r rest ih =>
    rw [judgeEach, judgeEach, judge_withMode]
    cases d.judge r.id now with
    | error cause => rfl
    | ok answer =>
      obtain ⟨isDuplicate, d₁⟩ := answer
      simp only [Except.map, bind, Except.bind, answerWithMode, ih]
      cases d₁.judgeEach rest now <;> rfl

theorem judgeBatch_withMode (batch : Batch) :
    (d.withMode mode).judgeBatch batch now
      = (d.judgeBatch batch now).map (answerWithMode mode) := by
  cases hkind : d.kind with
  | none =>
    cases d
    cases hkind
    rfl
  | firstCome =>
    have hkind' : (d.withMode mode).kind = .firstCome := hkind
    rw [judgeBatch_firstCome hkind, judgeBatch_firstCome hkind']
    exact judgeEach_withMode mode { d with memory := d.memory.expire now } now batch

end Deduper

namespace Dedup

theorem judgeAll_withMode (mode : Mode) (d : Deduper) (feeds : List Feed) :
    judgeAll Deduper.judgeBatch (d.withMode mode) feeds
      = (judgeAll Deduper.judgeBatch d feeds).map (Deduper.answerWithMode mode) := by
  induction feeds generalizing d with
  | nil => rfl
  | cons f feeds ih =>
    rw [judgeAll, judgeAll, Deduper.judgeBatch_withMode]
    cases d.judgeBatch f.batch f.now with
    | error cause => rfl
    | ok answer =>
      obtain ⟨judged, d₁⟩ := answer
      simp only [Except.map, bind, Except.bind, Deduper.answerWithMode, ih]
      cases judgeAll Deduper.judgeBatch d₁ feeds <;> rfl

/-! ## What is passed on -/

/-- The record, which says whether it is a duplicate. -/
def Verdict.marked (v : Verdict) : Record := { v.record with duplicate := v.isDuplicate }

variable {verdicts : List Verdict}

/-- Records that are not marked yet are passed on with their verdicts, all in order. -/
theorem flatMap_output_mark (h : ∀ v ∈ verdicts, v.record.duplicate = false) :
    verdicts.flatMap (Verdict.output .mark) = verdicts.map Verdict.marked := by
  rw [List.map_eq_flatMap, List.flatMap_def, List.flatMap_def]
  congr 1
  apply List.map_congr_left
  intro v hv
  have hfresh := h v hv
  cases hdup : v.isDuplicate with
  | true => simp [Verdict.output, Judgement.output, Verdict.marked, hdup]
  | false =>
    have hself : { v.record with duplicate := false } = v.record := by rw [← hfresh]
    simp [Verdict.output, Judgement.output, Verdict.marked, hdup, hself]

/-- What is left after dropping is what is left unmarked by marking. -/
theorem flatMap_output_drop (h : ∀ v ∈ verdicts, v.record.duplicate = false) :
    verdicts.flatMap (Verdict.output .drop)
      = (verdicts.flatMap (Verdict.output .mark)).filter (!·.duplicate) := by
  rw [List.filter_flatMap, List.flatMap_def, List.flatMap_def]
  congr 1
  apply List.map_congr_left
  intro v hv
  have hfresh := h v hv
  cases hdup : v.isDuplicate with
  | true => simp [Verdict.output, Judgement.output, hdup]
  | false => simp [Verdict.output, Judgement.output, hdup, hfresh]

/-! ## Whole runs -/

/-- Records of a run whose records came in unmarked are unmarked when they are judged. -/
theorem duplicate_of_judgeAll {d d' : Deduper} {feeds : List Feed}
    {verdicts : List (List Verdict)} (hfresh : ∀ f ∈ feeds, ∀ r ∈ f.batch, r.duplicate = false)
    (h : judgeAll Deduper.judgeBatch d feeds = .ok (verdicts, d')) :
    ∀ vs ∈ verdicts, ∀ v ∈ vs, v.record.duplicate = false := by
  intro vs hvs v hv
  obtain ⟨f, hf, hrecords, -⟩ := exists_feed_of_judgeAll h hvs
  apply hfresh f hf
  rw [← hrecords]
  exact List.mem_map_of_mem hv

/-- Records that come in unmarked, in batches at any instants, are judged alike
by a deduper that marks and one that drops. After each batch both remember the
same. The one that marks has passed on every record, in order and with nothing
changed but the mark, and the one that drops those that the other has left
unmarked. -/
theorem dedupAll_modes_agree (expiry : Duration) {feeds : List Feed}
    (hfresh : ∀ f ∈ feeds, ∀ r ∈ f.batch, r.duplicate = false) :
    ∀ done, done <+: feeds →
      (Fits expiry done →
        ∃ answer, dedupAll (.empty .firstCome .mark expiry) done = .ok answer) ∧
      (∀ marked d, dedupAll (.empty .firstCome .mark expiry) done = .ok (marked, d) →
        ∃ verdicts,
          judgeAll Deduper.judgeBatch (.empty .firstCome .mark expiry) done = .ok (verdicts, d) ∧
          judgeAll Deduper.judgeBatch (.empty .firstCome .drop expiry) done
            = .ok (verdicts, d.withMode .drop) ∧
          verdicts.map (·.map fun v => (v.record, v.arrived)) = done.map Feed.arrivals ∧
          marked = verdicts.map (·.map Verdict.marked) ∧
          dedupAll (.empty .firstCome .drop expiry) done
            = .ok (marked.map (·.filter (!·.duplicate)), d.withMode .drop)) := by
  intro done hdone
  constructor
  · intro hfits
    obtain ⟨verdicts, d, hrun⟩ := judgeBatch_followsHistory.judgeAll_answers
      (d := .empty .firstCome .mark expiry) rfl hfits
    exact ⟨_, dedupAll_eq_ok.2 ⟨verdicts, hrun, rfl⟩⟩
  · intro marked d hmark
    obtain ⟨verdicts, hrun, rfl⟩ := dedupAll_eq_ok.1 hmark
    have hunmarked := duplicate_of_judgeAll (fun f hf => hfresh f (hdone.subset hf)) hrun
    have hdrop : judgeAll Deduper.judgeBatch (.empty .firstCome .drop expiry) done
        = .ok (verdicts, d.withMode .drop) := by
      have hsame := judgeAll_withMode .drop (.empty .firstCome .mark expiry) done
      rw [hrun] at hsame
      exact hsame
    refine ⟨verdicts, hrun, hdrop, map_record_judgeAll hrun, ?_, ?_⟩
    · exact List.map_congr_left fun vs hvs => flatMap_output_mark (hunmarked vs hvs)
    · refine dedupAll_eq_ok.2 ⟨verdicts, hdrop, ?_⟩
      rw [List.map_map]
      exact List.map_congr_left fun vs hvs => (flatMap_output_drop (hunmarked vs hvs)).symm

/-- After the takeover the clock is set back, and both flows are seen on interface 3. -/
def setBack : List Feed := takeover ++ [⟨[recordFrom 1 3, recordFrom 2 3], 2⟩]

/-- Four of the nine records are marked, or dropped. -/
theorem dedupAll_modes_agree_setBack :
    (∀ f ∈ setBack, ∀ r ∈ f.batch, r.duplicate = false) ∧
    ∃ marked d,
      dedupAll (.empty .firstCome .mark ⟨10, by decide⟩) setBack = .ok (marked, d) ∧
      marked.map (·.map Record.duplicate)
        = [[false, false, true], [false], [true], [false, true], [true, false]] ∧
      dedupAll (.empty .firstCome .drop ⟨10, by decide⟩) setBack
        = .ok (marked.map (·.filter (!·.duplicate)), d.withMode .drop) := by
  have hfresh : ∀ f ∈ setBack, ∀ r ∈ f.batch, r.duplicate = false := by
    simp [setBack, takeover, recordFrom, Record.ofMetrics]
  have hagree := dedupAll_modes_agree ⟨10, by decide⟩ hfresh setBack (List.prefix_refl _)
  obtain ⟨verdicts, -, -, -, -, hdrop⟩ := hagree.2 _ _ rfl
  exact ⟨hfresh, _, _, rfl, rfl, hdrop⟩

end Dedup

end Flowmeter
