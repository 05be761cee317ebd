-- SUMMARY: Which stage comes to its end in a step, what it has taken in by then, and the order of the endings.
import Flowmeter.Proofs.Pipeline.Wiring

/-!
# Endings

A step ends one stage at most, and notes its ending behind the others. In an
undisturbed run a stage ends only when its input is closed and it has taken all
of it, so the stages end in the order in which they stand.
-/

namespace Flowmeter

/-- The stages in the order in which they stand. -/
def Stage.all : List Stage := [.intake, .cache, .deduper, .decorator, .export]

theorem Stage.mem_all (stage : Stage) : stage ∈ Stage.all := by
  cases stage <;> decide

/-- The stage from which a stage takes its input. -/
def Stage.upstream? : Stage → Option Stage
  | .intake => none
  | .cache => some .intake
  | .deduper => some .cache
  | .decorator => some .deduper
  | .export => some .decorator

/-- A stage goes behind others in order if it is the first of all or the one behind is there. -/
theorem Stage.prefix_all_snoc {stages : List Stage} {stage : Stage} (h : stages <+: Stage.all)
    (hnew : stage ∉ stages) (hupstream : ∀ before, stage.upstream? = some before → before ∈ stages) :
    stages ++ [stage] <+: Stage.all := by
  have hlength : stages.length ≤ 5 := h.length_le
  rw [List.prefix_iff_eq_take] at h
  generalize stages.length = count at h hlength
  subst h
  have hcount : count = 0 ∨ count = 1 ∨ count = 2 ∨ count = 3 ∨ count = 4 ∨ count = 5 := by omega
  rcases hcount with rfl | rfl | rfl | rfl | rfl | rfl <;>
    cases stage <;> simp_all [Stage.all, Stage.upstream?]

namespace Pipeline

variable {p q : Pipeline} {stage : Stage} {arrived : List (Except Intake.ReadError Bytes)}
  {sent : List RawRecord}

/-! ## The stage that ends in a step -/

theorem ending?_stop (p : Pipeline) (stage : Stage) (e : Ending) (other : Stage) :
    (p.stop stage e).ending? other = if other = stage then some e else p.ending? other := by
  cases stage <;> cases other <;> rfl

/-- No stage ends, or `stage` does, which ran before. -/
inductive Ends (stage : Stage) (p q : Pipeline) : Prop where
  | none : q.endings = p.endings →
      (∀ other, (q.ending? other).isSome = (p.ending? other).isSome) → Ends stage p q
  | one {e : Ending} : (p.ending? stage).isSome = false → q.endings = p.endings ++ [(stage, e)] →
      (∀ other, (q.ending? other).isSome = (decide (other = stage) || (p.ending? other).isSome)) →
      Ends stage p q

theorem Ends.stop {p' : Pipeline} (hruns : (p.ending? stage).isSome = false)
    (hendings : p'.endings = p.endings) (hsame : ∀ other, p'.ending? other = p.ending? other)
    (e : Ending) : Ends stage p (p'.stop stage e) := by
  refine Ends.one (e := e) hruns ?_ ?_
  · rw [stop_endings, hendings]
  · intro other
    rw [ending?_stop, hsame]
    by_cases hother : other = stage <;> simp [hother]

/-! A stage that acts runs. Its step ends itself or no stage. -/

theorem IntakeStep.runs (h : IntakeStep p sent q) : p.intake.hasEnded = false := by
  cases h with
  | send hitems => exact Phase.hasEnded_of_items hitems
  | refuse hitems => exact Phase.hasEnded_of_items hitems
  | _ => simp [*]

theorem CacheStep.runs (h : CacheStep p q) : p.caching.hasEnded = false := by
  cases h with
  | refuse hitems => exact Phase.hasEnded_of_items hitems
  | _ => simp [*]

theorem DeduperStep.runs (h : DeduperStep p q) : p.deduping.hasEnded = false := by
  cases h with
  | send hitems => exact Phase.hasEnded_of_items hitems
  | refuse hitems => exact Phase.hasEnded_of_items hitems
  | _ => simp [*]

theorem DecoratorStep.runs (h : DecoratorStep p q) : p.decorating.hasEnded = false := by
  cases h with
  | send hitems => exact Phase.hasEnded_of_items hitems
  | refuse hitems => exact Phase.hasEnded_of_items hitems
  | _ => simp [*]

theorem ExportStep.runs (h : ExportStep p q) : p.exporting.hasEnded = false := by
  cases h <;> simp [*]

theorem IntakeStep.ends (h : IntakeStep p sent q) : Ends .intake p q := by
  have hruns : (p.ending? .intake).isSome = false := (ending?_eq p _).trans h.runs
  cases h with
  | finish => exact .stop hruns rfl (fun _ => rfl) _
  | readClosed =>
    apply Ends.stop hruns
    · rfl
    · intro other
      rfl
  | readFailed => exact .none rfl fun _ => rfl
  | readMalformed => exact .none rfl fun _ => rfl
  | readRecord =>
    refine .none rfl fun other => ?_
    cases other <;> simp_all [ending?_eq]
  | send =>
    refine .none rfl fun other => ?_
    cases other <;> simp_all [ending?_eq]
  | refuse => exact .stop hruns rfl (fun _ => rfl) _

theorem CacheStep.ends (h : CacheStep p q) : Ends .cache p q := by
  have hruns : (p.ending? .cache).isSome = false := (ending?_eq p _).trans h.runs
  cases h with
  | failTimer => exact .stop hruns rfl (fun _ => rfl) _
  | failTick => exact .stop hruns rfl (fun _ => rfl) _
  | refuse => exact .stop hruns rfl (fun _ => rfl) _
  | finish =>
    apply Ends.stop hruns
    · rfl
    · intro other
      rfl
  | part =>
    apply Ends.stop hruns
    · rfl
    · intro other
      rfl
  | _ =>
    refine .none rfl fun other => ?_
    cases other <;> simp_all [ending?_eq]

theorem DeduperStep.ends (h : DeduperStep p q) : Ends .deduper p q := by
  have hruns : (p.ending? .deduper).isSome = false := (ending?_eq p _).trans h.runs
  cases h with
  | fail =>
    apply Ends.stop hruns
    · rfl
    · intro other
      rfl
  | finish => exact .stop hruns rfl (fun _ => rfl) _
  | refuse => exact .stop hruns rfl (fun _ => rfl) _
  | _ =>
    refine .none rfl fun other => ?_
    cases other <;> simp_all [ending?_eq]

theorem DecoratorStep.ends (h : DecoratorStep p q) : Ends .decorator p q := by
  have hruns : (p.ending? .decorator).isSome = false := (ending?_eq p _).trans h.runs
  cases h with
  | finish => exact .stop hruns rfl (fun _ => rfl) _
  | refuse => exact .stop hruns rfl (fun _ => rfl) _
  | _ =>
    refine .none rfl fun other => ?_
    cases other <;> simp_all [ending?_eq]

theorem ExportStep.ends (h : ExportStep p q) : Ends .export p q := by
  have hruns : (p.ending? .export).isSome = false := (ending?_eq p _).trans h.runs
  cases h with
  | «export» => exact .none rfl fun _ => rfl
  | fail =>
    apply Ends.stop hruns
    · rfl
    · intro other
      rfl
  | finish => exact .stop hruns rfl (fun _ => rfl) _

theorem WorldStep.ends (h : WorldStep p arrived q) (stage : Stage) : Ends stage p q := by
  cases h <;> exact .none rfl fun _ => rfl

theorem Step.ends (h : Step p arrived sent q) : ∃ stage, Ends stage p q := by
  cases h with
  | intake h => exact ⟨_, h.ends⟩
  | cache h => exact ⟨_, h.ends⟩
  | deduper h => exact ⟨_, h.ends⟩
  | decorator h => exact ⟨_, h.ends⟩
  | «export» h => exact ⟨_, h.ends⟩
  | quit _ hruns => exact ⟨_, .stop (by rw [hruns]; rfl) rfl (fun _ => rfl) _⟩
  | world h => exact ⟨.intake, h.ends _⟩

/-- A stage that ends is the one whose step it is. -/
theorem Ends.eq_of_ended {own : Stage} (h : Ends own p q) (hruns : (p.ending? stage).isSome = false)
    (hended : (q.ending? stage).isSome = true) : stage = own := by
  cases h with
  | none _ hsame =>
    rw [hsame, hruns] at hended
    cases hended
  | one _ _ hothers =>
    rw [hothers, hruns, Bool.or_false] at hended
    exact of_decide_eq_true hended

/-- Stages stay ended. -/
theorem Step.ended_mono (h : Step p arrived sent q) (hended : (p.ending? stage).isSome = true) :
    (q.ending? stage).isSome = true := by
  obtain ⟨own, hends⟩ := h.ends
  cases hends with
  | none _ hsame => rw [hsame, hended]
  | one _ _ hothers => rw [hothers, hended, Bool.or_true]

/-! ## The note of all endings -/

/-- The stages that have ended are those that are noted, each once. -/
structure Noted (p : Pipeline) : Prop where
  nodup : (p.endings.map Prod.fst).Nodup
  mem_iff : ∀ stage, stage ∈ p.endings.map Prod.fst ↔ (p.ending? stage).isSome = true

theorem start_noted {setup : Setup} (hcomplete : setup.IsComplete) (now : Instant) :
    (start setup now).Noted := by
  refine ⟨List.nodup_nil, fun stage => ?_⟩
  cases stage <;> simp [start, ending?, hcomplete _]

theorem Ends.noted (h : Ends stage p q) (hp : p.Noted) : q.Noted := by
  cases h with
  | none hendings hsame =>
    refine ⟨hendings ▸ hp.nodup, fun other => ?_⟩
    rw [hendings, hsame]
    exact hp.mem_iff other
  | one hruns hendings hothers =>
    have hnew : stage ∉ p.endings.map Prod.fst := by
      rw [hp.mem_iff, hruns]
      exact Bool.false_ne_true
    refine ⟨?_, fun other => ?_⟩
    · rw [hendings, List.map_append, List.nodup_append]
      refine ⟨hp.nodup, by simp, ?_⟩
      rintro x hx y hy rfl
      obtain rfl := List.mem_singleton.1 hy
      exact hnew hx
    · rw [hendings, hothers, List.map_append, List.mem_append, hp.mem_iff, Bool.or_eq_true,
        decide_eq_true_iff, or_comm]
      simp

theorem Step.noted (h : Step p arrived sent q) (hp : p.Noted) : q.Noted := by
  obtain ⟨stage, hends⟩ := h.ends
  exact hends.noted hp

/-! ## What has been taken in by then -/

/-- Nothing comes any more from where the stage takes its input, and nothing is left there. -/
def InputExhausted (p : Pipeline) : Stage → Prop
  | .intake => p.source = [] ∧ p.sourceClosed = true ∨
      ∃ result later, p.source = result :: later ∧ Intake.receive result = .closed
  | .cache => p.raw.closed = true ∧ p.raw.queue = []
  | .deduper => p.evicted.closed = true ∧ p.evicted.queue = []
  | .decorator => p.deduped.closed = true ∧ p.deduped.queue = []
  | .export => p.decorated.closed = true ∧ p.decorated.queue = []

theorem IntakeStep.inputExhausted (h : IntakeStep p sent q) (hp : p.Wired)
    (hruns : p.intake.hasEnded = false) (hended : q.intake.hasEnded = true) :
    p.InputExhausted .intake := by
  cases h with
  | finish _ _ hsource hclosed => exact .inl ⟨hsource, hclosed⟩
  | readClosed _ _ hsource hresult => exact .inr ⟨_, _, hsource, hresult⟩
  | readFailed => rw [hruns] at hended; cases hended
  | readMalformed => rw [hruns] at hended; cases hended
  | readRecord => cases hended
  | send => cases hended
  | refuse _ hcut => exact absurd hcut (hp.raw.not_isCut hruns)

theorem CacheStep.inputExhausted (h : CacheStep p q) (hp : p.Wired) (hq : q.Undisturbed)
    (hruns : p.caching.hasEnded = false) (hended : q.caching.hasEnded = true) :
    p.InputExhausted .cache := by
  cases h with
  | startTimer => rw [hruns] at hended; cases hended
  | failTimer => exact absurd hq not_undisturbed_of_failed
  | insert => rw [Phase.hasEnded_handOver] at hended; cases hended
  | skipTicks => rw [hruns] at hended; cases hended
  | tick => rw [Phase.hasEnded_handOver] at hended; cases hended
  | failTick => exact absurd hq not_undisturbed_of_failed
  | flush => rw [Phase.hasEnded_handOver] at hended; cases hended
  | finish _ _ hclosed hqueue => exact ⟨hclosed, hqueue⟩
  | drain => cases hended
  | send => cases hended
  | part hparting =>
    obtain ⟨hclosed, hqueue, -⟩ := hp.leaving (by rw [hparting]; rfl)
    exact ⟨hclosed, hqueue⟩
  | refuse _ hcut => exact absurd hcut (hp.evicted.not_isCut hruns)

theorem DeduperStep.inputExhausted (h : DeduperStep p q) (hp : p.Wired) (hq : q.Undisturbed)
    (hruns : p.deduping.hasEnded = false) (hended : q.deduping.hasEnded = true) :
    p.InputExhausted .deduper := by
  cases h with
  | judge => rw [Phase.hasEnded_handOver] at hended; cases hended
  | fail => exact absurd hq not_undisturbed_of_failed
  | finish _ hqueue hclosed => exact ⟨hclosed, hqueue⟩
  | send => cases hended
  | refuse _ hcut => exact absurd hcut (hp.deduped.not_isCut hruns)

theorem DecoratorStep.inputExhausted (h : DecoratorStep p q) (hp : p.Wired)
    (hruns : p.decorating.hasEnded = false) (hended : q.decorating.hasEnded = true) :
    p.InputExhausted .decorator := by
  cases h with
  | decorate => cases hended
  | finish _ hqueue hclosed => exact ⟨hclosed, hqueue⟩
  | send => cases hended
  | refuse _ hcut => exact absurd hcut (hp.decorated.not_isCut hruns)

theorem ExportStep.inputExhausted (h : ExportStep p q) (hq : q.Undisturbed)
    (hruns : p.exporting.hasEnded = false) (hended : q.exporting.hasEnded = true) :
    p.InputExhausted .export := by
  cases h with
  | «export» => rw [hruns] at hended; cases hended
  | fail => exact absurd hq not_undisturbed_of_failed
  | finish _ hqueue hclosed => exact ⟨hclosed, hqueue⟩

/-- A stage that ends has taken all of its input. -/
theorem Step.inputExhausted (h : Step p arrived sent q) (hp : p.Wired) (hq : q.Undisturbed)
    (hruns : (p.ending? stage).isSome = false) (hended : (q.ending? stage).isSome = true) :
    p.InputExhausted stage := by
  cases h with
  | intake h =>
    obtain rfl := h.ends.eq_of_ended hruns hended
    rw [ending?_eq] at hruns hended
    exact h.inputExhausted hp hruns hended
  | cache h =>
    obtain rfl := h.ends.eq_of_ended hruns hended
    rw [ending?_eq] at hruns hended
    exact h.inputExhausted hp hq hruns hended
  | deduper h =>
    obtain rfl := h.ends.eq_of_ended hruns hended
    rw [ending?_eq] at hruns hended
    exact h.inputExhausted hp hq hruns hended
  | decorator h =>
    obtain rfl := h.ends.eq_of_ended hruns hended
    rw [ending?_eq] at hruns hended
    exact h.inputExhausted hp hruns hended
  | «export» h =>
    obtain rfl := h.ends.eq_of_ended hruns hended
    rw [ending?_eq] at hruns hended
    exact h.inputExhausted hq hruns hended
  | quit hcancelled => exact (hq.not_quit hcancelled).elim
  | world h =>
    cases h <;> exact absurd (hruns.symm.trans hended) Bool.false_ne_true

/-! ## The order of the endings -/

/-- The stage in front of one with an exhausted input has ended. -/
theorem Wired.upstream_ended (hp : p.Wired) (h : p.InputExhausted stage) {before : Stage}
    (hbefore : stage.upstream? = some before) : (p.ending? before).isSome = true := by
  rw [ending?_eq]
  cases stage with
  | intake => cases hbefore
  | cache =>
    obtain rfl := Option.some.inj hbefore
    exact hp.raw.closed_eq.symm.trans h.1
  | deduper =>
    obtain rfl := Option.some.inj hbefore
    exact hp.evicted.closed_eq.symm.trans h.1
  | decorator =>
    obtain rfl := Option.some.inj hbefore
    exact hp.deduped.closed_eq.symm.trans h.1
  | «export» =>
    obtain rfl := Option.some.inj hbefore
    exact hp.decorated.closed_eq.symm.trans h.1

/-- The stages that have ended are the first ones, in their order. -/
def EndsInOrder (p : Pipeline) : Prop := p.endings.map Prod.fst <+: Stage.all

theorem Step.endsInOrder (h : Step p arrived sent q) (hp : p.Wired) (hnoted : p.Noted)
    (hq : q.Undisturbed) (horder : p.EndsInOrder) : q.EndsInOrder := by
  obtain ⟨stage, hends⟩ := h.ends
  cases hends with
  | none hendings => rwa [EndsInOrder, hendings]
  | one hruns hendings hothers =>
    have hended : (q.ending? stage).isSome = true := by rw [hothers]; simp
    have hinput := h.inputExhausted hp hq hruns hended
    rw [EndsInOrder, hendings, List.map_append]
    apply Stage.prefix_all_snoc horder
    · rw [hnoted.mem_iff, hruns]
      exact Bool.false_ne_true
    · intro before hbefore
      exact (hnoted.mem_iff before).2 (hp.upstream_ended hinput hbefore)

end Pipeline

end Flowmeter
