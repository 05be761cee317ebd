-- SUMMARY: How a run of the agent goes, from starting to stopped or failed, and what becomes of stages that fail in it.
import Flowmeter.Proofs.Agent.Conservation
import Flowmeter.Proofs.Agent.Supervised

/-!
# Lifecycle

A run that returns has reported one course of statuses, closed the source once
before the last of them, and returned an error just if that one is `failed`.
It is `stopped` just if the look that ended the wait saw a cancellation.

Nothing else counts. A stage may fail before that look, if the run was
cancelled before it as well, or while the stages are left to finish; then the
run is reported as stopped all the same.
-/

namespace Flowmeter.Agent

/-! ## Reports -/

/-- The statuses that are reported, in order. -/
def statuses (effects : List Effect) : List Status :=
  effects.filterMap fun
    | .report status => some status
    | .closeSource | .note _ _ | .stopStages => none

/-- The statuses of a run, of which `last` is the last one. -/
def course (setup : Except ConfigError Unit) (last : Status) : List Status :=
  match setup with
  | .error _ => [.starting, last]
  | .ok () => [.starting, .started, .stopping, last]

theorem statuses_append (effects later : List Effect) :
    statuses (effects ++ later) = statuses effects ++ statuses later :=
  List.filterMap_append

open Supervisor in
theorem statuses_map_noteOf (drained : List (Stage × Ending)) :
    statuses (drained.map noteOf) = [] := by
  rw [statuses, List.filterMap_map]
  exact List.filterMap_eq_nil_iff.2 fun _ _ => rfl

open Supervisor in
theorem count_closeSource_map_noteOf (drained : List (Stage × Ending)) :
    (drained.map noteOf).count .closeSource = 0 := by
  refine List.count_eq_zero.2 fun hmem => ?_
  obtain ⟨_, -, hnote⟩ := List.mem_map.1 hmem
  cases hnote

/-- Whatever the supervisor sees and hears of, it reports one course. -/
theorem supervise_reports {setup : Except ConfigError Unit} {moments : List Moment}
    {drained : List (Stage × Ending)} {effects : List Effect} {result : Except RunError Unit}
    (h : supervise setup moments drained = some (effects, result)) :
    ∃ before last, effects = before ++ [.report last] ∧ before.count .closeSource = 1 ∧
      statuses effects = course setup last ∧ (last = .stopped ∨ last = .failed) ∧
      (result = .ok () ↔ last = .stopped) := by
  match setup with
  | .error cause =>
    obtain ⟨rfl, rfl⟩ := Prod.mk.inj (Option.some.inj h)
    exact ⟨[.report .starting, .stopStages, .closeSource], .failed, rfl, rfl, rfl, .inr rfl,
      by simp⟩
  | .ok () =>
    cases hwatch : watch moments with
    | none => simp [supervise, hwatch] at h
    | some failure =>
      rw [Supervisor.supervise_of_watch hwatch] at h
      obtain ⟨rfl, rfl⟩ := Prod.mk.inj (Option.some.inj h)
      refine ⟨[.report .starting, .report .started, .report .stopping, .closeSource]
        ++ drained.map Supervisor.noteOf ++ [.stopStages], Supervisor.lastStatus failure, ?_, ?_, ?_,
        ?_, ?_⟩
      · simp only [List.append_assoc, List.singleton_append]
      · simp only [List.count_append, count_closeSource_map_noteOf]
        rfl
      · simp only [statuses_append, statuses_map_noteOf]
        rfl
      · cases failure <;> simp [Supervisor.lastStatus]
      · cases failure <;> simp [Supervisor.lastStatus, Supervisor.resultOf]

/-- So does an agent that has an outcome. -/
theorem run_reports {a : Agent} {world : World} {o : Outcome} (h : a.run world = .ok (some o)) :
    ∃ setup before last, a.setup world.clock world.names world.exporterFailsAt = .ok setup ∧
      o.effects = before ++ [.report last] ∧ before.count .closeSource = 1 ∧
      statuses o.effects = course (setup.map fun _ => ()) last ∧
      (last = .stopped ∨ last = .failed) ∧ (o.result = .ok () ↔ last = .stopped) := by
  obtain ⟨setup, events, s, hsetup, hrun, hreturned, heffects⟩ := exists_run_of_outcome h
  obtain ⟨moments, drained, hsupervise⟩ := Supervisor.supervise_of_run hrun hreturned
  rw [← heffects]
  obtain ⟨before, last, hreports⟩ := supervise_reports hsupervise
  exact ⟨setup, before, last, hsetup, hreports⟩

namespace Supervisor

variable {setup : Except ConfigError Unit} {now : Instant} {events : List Event} {s s' : Supervisor}
  {result : Except RunError Unit}

/-- A look sees that the run is cancelled. -/
def SeesCancellation (s : Supervisor) (events : List Event) : Prop :=
  ∃ earlier found later s₀, events = earlier ++ .look found :: later ∧ s.run earlier = some s₀ ∧
    s₀.stance = .watching ∧ s₀.cancelled = true

theorem SeesCancellation.result_eq (h : s.SeesCancellation events)
    (hrun : s.run events = some s') (hreturned : s'.stance = .returned result) :
    result = .ok () := by
  obtain ⟨earlier, found, later, s₀, rfl, hearlier, hwatching, hcancelled⟩ := h
  rw [run_append, hearlier, Option.bind_some, run, next_of_cancelled hwatching hcancelled] at hrun
  obtain ⟨-, -, -, hresult, -⟩ := exists_drained hrun rfl hreturned
  exact hresult

/-- The lifecycle of a run that returns. Whatever happened in which order, it reports
one course of statuses and nothing else, and closes the source once before the last
of them. It returns no error just if that one is `stopped`, and that is so just if
its stages were started and the look that ended the wait saw a cancellation. -/
theorem returned_lifecycle (hrun : (launch setup now).run events = some s)
    (hreturned : s.stance = .returned result) :
    ∃ before last, s.effects = before ++ [.report last] ∧ before.count .closeSource = 1 ∧
      statuses s.effects = course setup last ∧ (last = .stopped ∨ last = .failed) ∧
      (result = .ok () ↔ last = .stopped) ∧
      (last = .stopped ↔ setup = .ok () ∧ (launch setup now).SeesCancellation events) := by
  obtain ⟨moments, drained, hsupervise⟩ := supervise_of_run hrun hreturned
  obtain ⟨before, last, heffects, hclosed, hcourse, hlast, hresult⟩ := supervise_reports hsupervise
  refine ⟨before, last, heffects, hclosed, hcourse, hlast, hresult, ?_⟩
  rw [← hresult]
  constructor
  · intro hok
    rcases returned_cases hrun hreturned with ⟨cause, -, -, rfl⟩ |
      ⟨hsetup, earlier, found, later, s₀, failure, first, -, hevents, hearlier, hwatching, hfinds, -,
        -, rfl, -⟩
    · cases hok
    · cases hfinds with
      | cancelled hcancelled =>
        exact ⟨hsetup, earlier, found, later, s₀, hevents, hearlier, hwatching, hcancelled⟩
      | ended => cases hok
  · rintro ⟨-, hsees⟩
    exact hsees.result_eq hrun hreturned

/-- The deduper fails and the run is cancelled before the supervisor looks. It notes
the failure in the drain, and time passes until it gives up the other stages. -/
def tie : List Event :=
  [.ending .deduper .failed, .cancel, .look (some (.deduper, .failed)), .hear .deduper .failed,
    .ending .intake .finished, .hear .intake .finished, .pass graceNanos, .finish]

/-- The cancellation wins. -/
theorem returned_lifecycle_tie :
    ∃ s, (launch (.ok ()) 0).run tie = some s ∧ s.stance = .returned (.ok ()) ∧
      statuses s.effects = [.starting, .started, .stopping, .stopped] ∧
      (launch (.ok ()) 0).SeesCancellation tie := by
  obtain ⟨s, hrun, hreturned⟩ : ∃ s, (launch (.ok ()) 0).run tie = some s ∧
      s.stance = .returned (.ok ()) := ⟨_, rfl, rfl⟩
  obtain ⟨before, last, -, -, hcourse, -, hresult, hstopped⟩ := returned_lifecycle hrun hreturned
  obtain rfl := hresult.1 rfl
  exact ⟨s, hrun, hreturned, hcourse, (hstopped.1 rfl).2⟩

/-! ## Stages that fail -/

/-- What becomes of a stage that fails before the run returns. The look that ended the
wait decides: if it saw no cancellation, the run is reported as failed. If it saw
one, the run is reported as stopped, and the failure is noted, or was not heard of in
time. -/
theorem failed_stage_accounted {stage : Stage} (hrun : (launch (.ok ()) now).run events = some s)
    (hreturned : s.stance = .returned result) (hfailed : (stage, .failed) ∈ s.endings) :
    ∃ earlier found later s₀ before last, events = earlier ++ .look found :: later ∧
      (launch (.ok ()) now).run earlier = some s₀ ∧ s₀.stance = .watching ∧
      s.effects = before ++ [.report last] ∧
      (s₀.cancelled = false → last = .failed ∧ ∃ first ending, found = some (first, ending) ∧
        (first, ending) ∈ s₀.endings ∧ result = .error (.ofEnding first ending)) ∧
      (s₀.cancelled = true → last = .stopped ∧ result = .ok () ∧
        (.note stage .failed ∈ before ∨ s₀.now + graceNanos ≤ s.now)) := by
  rcases returned_cases hrun hreturned with ⟨cause, hsetup, -⟩ |
    ⟨-, earlier, found, later, s₀, failure, first, drained, hevents, hearlier, hwatching, hfinds,
      hheard, heffects, rfl, hover⟩
  · cases hsetup
  obtain ⟨before, hbefore, hnotes⟩ : ∃ before,
      s.effects = before ++ [.report (lastStatus failure)] ∧ ∀ e ∈ drained, noteOf e ∈ before := by
    refine ⟨[.report .starting, .report .started, .report .stopping, .closeSource]
      ++ drained.map noteOf ++ [.stopStages], ?_, fun e he => ?_⟩
    · rw [heffects, List.append_assoc _ [_], List.singleton_append]
    · exact List.mem_append_left _ (List.mem_append_right _ (List.mem_map_of_mem he))
  refine ⟨earlier, found, later, s₀, before, lastStatus failure, hevents, hearlier, hwatching,
    hbefore, ?_, ?_⟩
  · intro hgoes
    cases hfinds with
    | cancelled hcancelled =>
      rw [hgoes] at hcancelled
      cases hcancelled
    | ended _ hpending hfound =>
      exact ⟨rfl, _, _, hfound, (List.mem_filter.1 hpending).1, rfl⟩
  · intro hcancelled
    cases hfinds with
    | ended hgoes =>
      rw [hgoes] at hcancelled
      cases hcancelled
    | cancelled =>
      refine ⟨rfl, rfl, hover.imp_left fun hdrained => ?_⟩
      have hmem := mem_heard_of_isDrained hdrained hfailed
      rw [hheard, List.nil_append] at hmem
      exact hnotes _ hmem

/-- The deduper fails, and the run is reported as stopped. -/
theorem failed_stage_accounted_tie :
    ∃ s, (launch (.ok ()) 0).run tie = some s ∧ s.stance = .returned (.ok ()) ∧
      (.deduper, .failed) ∈ s.endings ∧
      ∃ (before : List Effect) (s₀ : Supervisor), s.effects = before ++ [.report .stopped] ∧
        s₀.cancelled = true ∧
        (.note .deduper .failed ∈ before ∨ s₀.now + graceNanos ≤ s.now) := by
  obtain ⟨s, hrun, hreturned, hfailed⟩ : ∃ s, (launch (.ok ()) 0).run tie = some s ∧
      s.stance = .returned (.ok ()) ∧ (.deduper, .failed) ∈ s.endings :=
    ⟨_, rfl, rfl, by decide⟩
  obtain ⟨_, _, _, s₀, before, last, -, -, -, heffects, hgoes, hcancelled⟩ :=
    failed_stage_accounted hrun hreturned hfailed
  refine ⟨s, hrun, hreturned, hfailed, before, s₀, ?_⟩
  cases hlook : s₀.cancelled with
  | false =>
    obtain ⟨-, _, _, -, -, herror⟩ := hgoes hlook
    cases herror
  | true =>
    obtain ⟨rfl, -, hnoted⟩ := hcancelled hlook
    exact ⟨heffects, rfl, hnoted⟩

end Supervisor

/-- One packet arrives, the exporter fails at it, and the run is cancelled before it starts. -/
def unnoticed : World where
  clock := ⟨0⟩
  source := [.ok (RawRecord.encode ⟨.tcpFrom 1 3, .ofPacket 60 5⟩)]
  names := []
  exporterFailsAt := some 0
  stimulus := .cancelledBefore

/-- The export stage fails before the run returns, and the run is a success. -/
theorem run_unnoticed :
    ∃ o, marking.run unnoticed = .ok (some o) ∧ .note .export .failed ∈ o.effects ∧
      o.result = .ok () ∧ o.status = .stopped := by
  refine ⟨_, rfl, ?_, ?_, ?_⟩
  · decide
  · rfl
  · rfl

end Flowmeter.Agent
