-- SUMMARY: Runs of the pipeline with a record of what arrived and what was sent, and runs that nothing disturbs.
import Flowmeter.Proofs.Pipeline.Step

/-!
# Runs of the pipeline

A run is any sequence of acts, as long as each can happen. Along with the state
it notes what has arrived at the source and what the intake has sent.

A run is undisturbed if it is not cancelled and no stage has failed. Neither
can be undone, so all that came before was undisturbed as well.
-/

namespace Flowmeter

namespace Pipeline

/-! ## Traces -/

/-- A pipeline and what has happened to it. -/
structure Trace where
  pipeline : Pipeline
  /-- All results of readings, those to come included. -/
  arrived : List (Except Intake.ReadError Bytes)
  /-- The records that the intake has sent to the cache. -/
  sent : List RawRecord

namespace Trace

def start (p : Pipeline) : Trace := { pipeline := p, arrived := p.source, sent := [] }

def next (t : Trace) (act : Act) : Option Trace :=
  match act.apply t.pipeline with
  | none => none
  | some p =>
    some { pipeline := p, arrived := t.arrived ++ act.arrived, sent := t.sent ++ act.sent t.pipeline }

/-- The trace after all the acts, if they can happen in this order. -/
def run : Trace → List Act → Option Trace
  | t, [] => some t
  | t, act :: acts =>
    match t.next act with
    | none => none
    | some t => run t acts

variable {t t' : Trace} {act : Act} {acts : List Act}

theorem apply_of_next (h : t.next act = some t') : act.apply t.pipeline = some t'.pipeline := by
  unfold next at h
  split at h
  · cases h
  · next happly =>
    obtain rfl := Option.some.inj h
    exact happly

theorem step_of_next (h : t.next act = some t') :
    ∃ arrived sent, Step t.pipeline arrived sent t'.pipeline ∧
      t'.arrived = t.arrived ++ arrived ∧ t'.sent = t.sent ++ sent := by
  unfold next at h
  split at h
  · cases h
  · next happly =>
    obtain rfl := Option.some.inj h
    exact ⟨act.arrived, act.sent t.pipeline, step_of_apply happly, rfl, rfl⟩

/-- An act at which nothing arrives and nothing is sent changes the pipeline alone. -/
theorem next_of_silent {q : Pipeline} (happly : act.apply t.pipeline = some q)
    (harrived : act.arrived = []) (hsent : act.sent t.pipeline = []) :
    t.next act = some { t with pipeline := q } := by
  simp [next, happly, harrived, hsent]

theorem run_cons (h : t.run (act :: acts) = some t') :
    ∃ t₁, t.next act = some t₁ ∧ t₁.run acts = some t' := by
  rw [run] at h
  split at h
  · cases h
  · next t₁ hnext => exact ⟨t₁, hnext, h⟩

theorem run_append (t : Trace) (acts later : List Act) :
    t.run (acts ++ later) = (t.run acts).bind (run · later) := by
  induction acts generalizing t with
  | nil => rfl
  | cons act acts ih =>
    rw [List.cons_append, run, run]
    cases t.next act with
    | none => rfl
    | some t₁ => exact ih t₁

/-- What every step keeps, a run keeps. -/
theorem run_induction {P : Trace → Prop}
    (h : t.run acts = some t') (hstart : P t)
    (hstep : ∀ (t t' : Trace) (arrived : List (Except Intake.ReadError Bytes))
      (sent : List RawRecord), Step t.pipeline arrived sent t'.pipeline →
      t'.arrived = t.arrived ++ arrived → t'.sent = t.sent ++ sent → P t → P t') : P t' := by
  induction acts generalizing t with
  | nil =>
    obtain rfl := Option.some.inj h
    exact hstart
  | cons act acts ih =>
    obtain ⟨t₁, hnext, hlater⟩ := run_cons h
    obtain ⟨arrived, sent, hfirst, harrived, hsent⟩ := step_of_next hnext
    exact ih hlater (hstep t t₁ arrived sent hfirst harrived hsent hstart)

end Trace

/-! ## Undisturbed runs -/

variable {p q : Pipeline} {arrived : List (Except Intake.ReadError Bytes)} {sent : List RawRecord}

@[simp] theorem stop_endings (p : Pipeline) (stage : Stage) (e : Ending) :
    (p.stop stage e).endings = p.endings ++ [(stage, e)] := by
  cases stage <;> rfl

@[simp] theorem stop_cancelled (p : Pipeline) (stage : Stage) (e : Ending) :
    (p.stop stage e).cancelled = p.cancelled := by
  cases stage <;> rfl

/-- Nobody has cancelled the pipeline, and no stage has failed. -/
structure Undisturbed (p : Pipeline) : Prop where
  not_cancelled : p.cancelled = false
  finished : ∀ ending ∈ p.endings, ending.2 = .finished

theorem not_undisturbed_of_failed {stage : Stage} : ¬ (p.stop stage .failed).Undisturbed := by
  intro h
  have hfailed := h.finished (stage, .failed) (by simp)
  cases hfailed

/-- Endings stay, and so does a cancellation. -/
def Extends (p q : Pipeline) : Prop :=
  (p.cancelled = true → q.cancelled = true) ∧ ∃ later, q.endings = p.endings ++ later

theorem IntakeStep.extends (h : IntakeStep p sent q) : Extends p q := by
  cases h <;> simp [Extends]

theorem CacheStep.extends (h : CacheStep p q) : Extends p q := by
  cases h <;> simp [Extends]

theorem DeduperStep.extends (h : DeduperStep p q) : Extends p q := by
  cases h <;> simp [Extends]

theorem DecoratorStep.extends (h : DecoratorStep p q) : Extends p q := by
  cases h <;> simp [Extends]

theorem ExportStep.extends (h : ExportStep p q) : Extends p q := by
  cases h <;> simp [Extends]

theorem WorldStep.extends (h : WorldStep p arrived q) : Extends p q := by
  cases h <;> simp [Extends]

theorem Step.extends (h : Step p arrived sent q) : Extends p q := by
  cases h with
  | intake h => exact h.extends
  | cache h => exact h.extends
  | deduper h => exact h.extends
  | decorator h => exact h.extends
  | «export» h => exact h.extends
  | quit => simp [Extends]
  | world h => exact h.extends

/-- Nothing disturbed the run before if nothing has disturbed it now. -/
theorem Step.undisturbed (h : Step p arrived sent q) (hq : q.Undisturbed) : p.Undisturbed := by
  obtain ⟨hcancelled, later, hendings⟩ := h.extends
  refine ⟨Bool.eq_false_iff.2 fun hp => ?_, fun ending hmem => ?_⟩
  · have hstays := hcancelled hp
    rw [hq.not_cancelled] at hstays
    cases hstays
  · exact hq.finished ending (by rw [hendings]; exact List.mem_append_left later hmem)

/-- A run that nothing has disturbed was not disturbed before. -/
theorem Trace.undisturbed_of_run {t t' : Trace} {acts : List Act} (hrun : t.run acts = some t')
    (ht' : t'.pipeline.Undisturbed) : t.pipeline.Undisturbed := by
  induction acts generalizing t with
  | nil =>
    obtain rfl := Option.some.inj hrun
    exact ht'
  | cons act acts ih =>
    obtain ⟨t₁, hnext, hlater⟩ := run_cons hrun
    exact (step_of_apply (apply_of_next hnext)).undisturbed (ih hlater)

/-- No stage quits an undisturbed run. -/
theorem Undisturbed.not_quit {stage : Stage} (hq : (p.stop stage .finished).Undisturbed)
    (hcancelled : p.cancelled = true) : False := by
  have hnot := hq.not_cancelled
  rw [stop_cancelled, hcancelled] at hnot
  cases hnot

end Pipeline

end Flowmeter
