-- SUMMARY: The supervisor step by step, while stages end and the run is cancelled at any moment, and what it comes to.
import Flowmeter.Agent.Run

/-!
# The supervisor step by step

A run of the agent is a sequence of events. Stages come to their ends, in any
order and in either way, time passes, and the run may be cancelled at any
moment. In between the supervisor looks, hears of endings and returns.

One look ends the wait. What the supervisor saw at it settles the result; all
that happens later only adds notes. So whatever the events were, the effects
are those that `supervise` gives for what was seen then and was heard later.
-/

namespace Flowmeter.Agent

/-! ## States and events -/

/-- What the supervisor is at. -/
inductive Stance where
  /-- It waits for a cancellation or for a stage to come to its end. -/
  | watching
  /-- It has closed the source, and leaves the stages to finish until the deadline. -/
  | draining (failure : Option RunError) (deadline : Instant)
  | returned (result : Except RunError Unit)

structure Supervisor where
  now : Instant
  cancelled : Bool
  /-- The stages that have come to an end, in that order. -/
  endings : List (Stage × Ending)
  /-- The endings that it has heard of. -/
  heard : List (Stage × Ending)
  stance : Stance
  effects : List Effect

inductive Event where
  | cancel
  | pass (nanos : Nat)
  | ending (stage : Stage) (ending : Ending)
  /-- The supervisor looks, and may find that a stage has come to its end. Of which
  stage it hears first is left open. -/
  | look (found : Option (Stage × Ending))
  | hear (stage : Stage) (ending : Ending)
  | finish

namespace Supervisor

/-- The endings that it has not heard of. -/
def pending (s : Supervisor) : List (Stage × Ending) := s.endings.filter (· ∉ s.heard)

def hasEnded (s : Supervisor) (stage : Stage) : Bool := s.endings.any (·.1 = stage)

/-- All stages have come to their ends and have been heard of. -/
def isDrained (s : Supervisor) : Bool :=
  [Stage.intake, .cache, .deduper, .decorator, .export].all s.hasEnded && s.pending.isEmpty

/-- The state in which the stages have been started, if they could be. -/
def launch (setup : Except ConfigError Unit) (now : Instant) : Supervisor :=
  match setup with
  | .error cause =>
    { now
      cancelled := false
      endings := []
      heard := []
      stance := .returned (.error (.setup cause))
      effects := [.report .starting, .stopStages, .closeSource, .report .failed] }
  | .ok () =>
    { now
      cancelled := false
      endings := []
      heard := []
      stance := .watching
      effects := [.report .starting, .report .started] }

/-- The wait is over, and the time of the stages begins to run. -/
def shutDown (s : Supervisor) (failure : Option RunError) : Supervisor :=
  { s with
    stance := .draining failure (s.now + graceNanos)
    effects := s.effects ++ [.report .stopping, .closeSource] }

/-- A look. If it finds the run cancelled, it does not get to the stages. -/
def look (s : Supervisor) (found : Option (Stage × Ending)) : Option Supervisor :=
  if s.cancelled then some (s.shutDown none)
  else
    match found with
    | none => if s.pending = [] then some s else none
    | some (stage, ending) =>
      if (stage, ending) ∈ s.pending then
        some { s.shutDown (some (.ofEnding stage ending)) with heard := [(stage, ending)] }
      else none

def hear (s : Supervisor) (stage : Stage) (ending : Ending) : Option Supervisor :=
  if (stage, ending) ∈ s.pending then
    some
      { s with
        heard := s.heard ++ [(stage, ending)]
        effects := s.effects ++ [.note stage ending] }
  else none

/-- The status that is reported last. -/
def lastStatus : Option RunError → Status
  | none => .stopped
  | some _ => .failed

def resultOf : Option RunError → Except RunError Unit
  | none => .ok ()
  | some e => .error e

/-- The supervisor returns, when nothing is left to be heard of or the time is over. -/
def finish (s : Supervisor) (failure : Option RunError) (deadline : Instant) : Option Supervisor :=
  if s.isDrained || deadline ≤ s.now then
    some
      { s with
        stance := .returned (resultOf failure)
        effects := s.effects ++ [.stopStages, .report (lastStatus failure)] }
  else none

/-- The state after an event, if it can happen. Each stage ends once. -/
def next (s : Supervisor) (event : Event) : Option Supervisor :=
  match s.stance, event with
  | .returned _, _ => none
  | _, .cancel => some { s with cancelled := true }
  | _, .pass nanos => some { s with now := s.now + nanos }
  | _, .ending stage ending =>
    if s.hasEnded stage then none else some { s with endings := s.endings ++ [(stage, ending)] }
  | .watching, .look found => s.look found
  | .draining _ _, .hear stage ending => s.hear stage ending
  | .draining failure deadline, .finish => s.finish failure deadline
  | .watching, .hear _ _ | .watching, .finish | .draining _ _, .look _ => none

/-- The state after all the events, if they can happen in this order. -/
def run : Supervisor → List Event → Option Supervisor
  | s, [] => some s
  | s, event :: events =>
    match s.next event with
    | none => none
    | some s => run s events

/-! ## Steps -/

/-- All that an event can do, while the supervisor has not returned. -/
inductive Step (s : Supervisor) : Event → Supervisor → Prop where
  | cancel : Step s .cancel { s with cancelled := true }
  | pass {nanos : Nat} : Step s (.pass nanos) { s with now := s.now + nanos }
  | ending {stage : Stage} {ending : Ending} : s.hasEnded stage = false →
      Step s (.ending stage ending) { s with endings := s.endings ++ [(stage, ending)] }
  | look {found : Option (Stage × Ending)} {s' : Supervisor} : s.stance = .watching →
      s.look found = some s' → Step s (.look found) s'
  | hear {failure : Option RunError} {deadline : Instant} {stage : Stage} {ending : Ending} :
      s.stance = .draining failure deadline → (stage, ending) ∈ s.pending →
      Step s (.hear stage ending)
        { s with
          heard := s.heard ++ [(stage, ending)]
          effects := s.effects ++ [.note stage ending] }
  | finish {failure : Option RunError} {deadline : Instant} :
      s.stance = .draining failure deadline → s.isDrained = true ∨ deadline ≤ s.now →
      Step s .finish
        { s with
          stance := .returned (resultOf failure)
          effects := s.effects ++ [.stopStages, .report (lastStatus failure)] }

variable {s s' s₀ : Supervisor} {event : Event} {events : List Event} {stage : Stage}
  {ending : Ending} {found : Option (Stage × Ending)} {failure : Option RunError}
  {deadline : Instant} {result : Except RunError Unit}

theorem step_of_next (h : s.next event = some s') : Step s event s' := by
  unfold next at h
  split at h
  · cases h
  · obtain rfl := Option.some.inj h
    exact .cancel
  · obtain rfl := Option.some.inj h
    exact .pass
  · split at h
    · cases h
    · next hruns =>
      obtain rfl := Option.some.inj h
      exact .ending (Bool.eq_false_iff.2 hruns)
  · next hwatching => exact .look hwatching h
  · next hdraining =>
    unfold hear at h
    split at h
    · next hpending =>
      obtain rfl := Option.some.inj h
      exact .hear hdraining hpending
    · cases h
  · next hdraining =>
    unfold finish at h
    split at h
    · next hover =>
      obtain rfl := Option.some.inj h
      exact .finish hdraining (by simpa using hover)
    · cases h
  all_goals cases h

theorem next_of_returned (hreturned : s.stance = .returned result) (event : Event) :
    s.next event = none := by
  simp only [next, hreturned]

theorem run_of_returned (hreturned : s.stance = .returned result)
    (h : s.run events = some s') : events = [] ∧ s' = s := by
  cases events with
  | nil => exact ⟨rfl, (Option.some.inj h).symm⟩
  | cons event events =>
    rw [run, next_of_returned hreturned event] at h
    cases h

theorem run_cons (h : s.run (event :: events) = some s') :
    ∃ s₁, s.next event = some s₁ ∧ s₁.run events = some s' := by
  rw [run] at h
  split at h
  · cases h
  · next s₁ hnext => exact ⟨s₁, hnext, h⟩

theorem run_append (s : Supervisor) (events later : List Event) :
    s.run (events ++ later) = (s.run events).bind (run · later) := by
  induction events generalizing s with
  | nil => rfl
  | cons event events ih =>
    rw [List.cons_append, run, run]
    cases s.next event with
    | none => rfl
    | some s₁ => exact ih s₁

/-! ## The wait -/

/-- What a look that ends the wait finds: why the run fails, if it does, and
the endings that are heard of by it. -/
inductive Finds (s : Supervisor) (found : Option (Stage × Ending)) :
    Option RunError → List (Stage × Ending) → Prop where
  | cancelled : s.cancelled = true → Finds s found none []
  | ended {stage : Stage} {ending : Ending} : s.cancelled = false → (stage, ending) ∈ s.pending →
      found = some (stage, ending) → Finds s found (some (.ofEnding stage ending)) [(stage, ending)]

/-- A look either finds nothing, and then nothing changes, or it ends the wait. -/
theorem look_cases (hheard : s.heard = []) (h : s.look found = some s') :
    s' = s ∨ ∃ failure first, Finds s found failure first ∧
      s' = { s.shutDown failure with heard := first } := by
  unfold look at h
  split at h
  · next hcancelled =>
    obtain rfl := Option.some.inj h
    refine .inr ⟨none, [], .cancelled hcancelled, ?_⟩
    rw [← hheard]
    rfl
  · next hgoes =>
    split at h
    · split at h
      · exact .inl (Option.some.inj h).symm
      · cases h
    · next stage ending =>
      split at h
      · next hpending =>
        obtain rfl := Option.some.inj h
        exact .inr ⟨_, _, .ended (Bool.eq_false_iff.2 hgoes) hpending rfl, rfl⟩
      · cases h

/-- A cancellation wins, whatever else there is to be found. -/
theorem next_of_cancelled (hwatching : s.stance = .watching) (hcancelled : s.cancelled = true)
    (found : Option (Stage × Ending)) : s.next (.look found) = some (s.shutDown none) := by
  simp only [next, hwatching, look, hcancelled, if_true]

/-- The wait of a run that returned was ended by a look. Before, nothing was
heard of and nothing done. -/
theorem exists_look (hrun : s.run events = some s') (hwatching : s.stance = .watching)
    (hheard : s.heard = []) (hreturned : s'.stance = .returned result) :
    ∃ earlier found later s₀ failure first,
      events = earlier ++ .look found :: later ∧ s.run earlier = some s₀ ∧
      s₀.stance = .watching ∧ s₀.effects = s.effects ∧ Finds s₀ found failure first ∧
      { s₀.shutDown failure with heard := first }.run later = some s' := by
  induction events generalizing s with
  | nil =>
    obtain rfl := Option.some.inj hrun
    rw [hwatching] at hreturned
    cases hreturned
  | cons event events ih =>
    obtain ⟨s₁, hnext, hlater⟩ := run_cons hrun
    -- An event that leaves the supervisor waiting goes in front of those of the induction.
    have hwaits : s₁.stance = .watching → s₁.heard = [] → s₁.effects = s.effects →
        ∃ earlier found later s₀ failure first,
          event :: events = earlier ++ .look found :: later ∧ s.run earlier = some s₀ ∧
          s₀.stance = .watching ∧ s₀.effects = s.effects ∧ Finds s₀ found failure first ∧
          { s₀.shutDown failure with heard := first }.run later = some s' := by
      intro hstance hnothing heffects
      obtain ⟨earlier, found, later, s₀, failure, first, rfl, hearlier, hs₀, hs₀effects, hfinds,
        hrest⟩ := ih hlater hstance hnothing
      refine ⟨event :: earlier, found, later, s₀, failure, first, rfl, ?_, hs₀,
        hs₀effects.trans heffects, hfinds, hrest⟩
      rw [run, hnext]
      exact hearlier
    cases step_of_next hnext with
    | cancel => exact hwaits hwatching hheard rfl
    | pass => exact hwaits hwatching hheard rfl
    | ending => exact hwaits hwatching hheard rfl
    | look _ hlook =>
      rcases look_cases hheard hlook with rfl | ⟨failure, first, hfinds, rfl⟩
      · exact hwaits hwatching hheard rfl
      · exact ⟨[], _, events, s, failure, first, rfl, rfl, hwatching, rfl, hfinds, hlater⟩
    | hear hdraining => rw [hwatching] at hdraining; cases hdraining
    | finish hdraining => rw [hwatching] at hdraining; cases hdraining

/-! ## The drain -/

def noteOf (ending : Stage × Ending) : Effect := .note ending.1 ending.2

/-- After the wait endings are noted as they are heard of, and the result is settled. -/
theorem exists_drained (hrun : s.run events = some s')
    (hdraining : s.stance = .draining failure deadline) (hreturned : s'.stance = .returned result) :
    ∃ drained, s'.heard = s.heard ++ drained ∧
      s'.effects = s.effects ++ drained.map noteOf ++ [.stopStages, .report (lastStatus failure)] ∧
      result = resultOf failure ∧ (s'.isDrained = true ∨ deadline ≤ s'.now) := by
  induction events generalizing s with
  | nil =>
    obtain rfl := Option.some.inj hrun
    rw [hdraining] at hreturned
    cases hreturned
  | cons event events ih =>
    obtain ⟨s₁, hnext, hlater⟩ := run_cons hrun
    cases step_of_next hnext with
    | cancel => exact (ih hlater hdraining :)
    | pass => exact (ih hlater hdraining :)
    | ending => exact (ih hlater hdraining :)
    | look hwatching => rw [hdraining] at hwatching; cases hwatching
    | @hear _ _ stage ending =>
      obtain ⟨drained, hheard, heffects, hrest⟩ := ih hlater hdraining
      refine ⟨(stage, ending) :: drained, ?_, ?_, hrest⟩
      · rw [hheard, List.append_assoc, List.singleton_append]
      · rw [heffects, List.map_cons]
        simp only [noteOf, List.append_assoc, List.cons_append, List.nil_append]
    | finish hstance hover =>
      rw [hdraining] at hstance
      obtain ⟨rfl, rfl⟩ := Stance.draining.inj hstance
      obtain ⟨rfl, rfl⟩ := run_of_returned rfl hlater
      refine ⟨[], (List.append_nil _).symm, ?_, ?_, hover⟩
      · rw [List.map_nil, List.append_nil]
      · exact (Stance.returned.inj hreturned).symm

theorem mem_heard_of_isDrained (h : s.isDrained = true) {e : Stage × Ending}
    (hmem : e ∈ s.endings) : e ∈ s.heard := by
  have hpending := List.isEmpty_iff.1 (Bool.and_eq_true_iff.1 h).2
  have hheard := List.filter_eq_nil_iff.1 hpending e hmem
  simpa using hheard

/-! ## Agreement with `supervise` -/

theorem Finds.watch {first : List (Stage × Ending)} (h : Finds s found failure first) :
    ∃ endings, endings.Perm s.pending ∧ watch [⟨s.cancelled, endings⟩] = some failure := by
  cases h with
  | cancelled hcancelled => exact ⟨s.pending, .refl _, by simp [Agent.watch, hcancelled]⟩
  | ended hgoes hpending =>
    exact ⟨_, (List.perm_cons_erase hpending).symm, by simp [Agent.watch, hgoes]⟩

theorem supervise_of_watch {moments : List Moment} (h : watch moments = some failure)
    (drained : List (Stage × Ending)) :
    supervise (.ok ()) moments drained = some
      ([.report .starting, .report .started, .report .stopping, .closeSource] ++ drained.map noteOf
        ++ [.stopStages, .report (lastStatus failure)], resultOf failure) := by
  cases failure <;> simp [supervise, h, noteOf, lastStatus, resultOf]

/-- A run that returned had not been started, or one look ended its wait. -/
theorem returned_cases {setup : Except ConfigError Unit} {now : Instant}
    (hrun : (launch setup now).run events = some s) (hreturned : s.stance = .returned result) :
    (∃ cause, setup = .error cause ∧ s = launch setup now ∧ result = .error (.setup cause)) ∨
    (setup = .ok () ∧ ∃ earlier found later s₀ failure first drained,
      events = earlier ++ .look found :: later ∧ (launch setup now).run earlier = some s₀ ∧
      s₀.stance = .watching ∧ Finds s₀ found failure first ∧ s.heard = first ++ drained ∧
      s.effects = [.report .starting, .report .started, .report .stopping, .closeSource]
        ++ drained.map noteOf ++ [.stopStages, .report (lastStatus failure)] ∧
      result = resultOf failure ∧ (s.isDrained = true ∨ s₀.now + graceNanos ≤ s.now)) := by
  match setup with
  | .error cause =>
    obtain ⟨-, rfl⟩ := run_of_returned rfl hrun
    exact .inl ⟨cause, rfl, rfl, (Stance.returned.inj hreturned).symm⟩
  | .ok () =>
    obtain ⟨earlier, found, later, s₀, failure, first, hevents, hearlier, hwatching, hbefore, hfinds,
      hlater⟩ := exists_look hrun rfl rfl hreturned
    obtain ⟨drained, hheard, heffects, hresult, hover⟩ := exists_drained hlater rfl hreturned
    refine .inr ⟨rfl, earlier, found, later, s₀, failure, first, drained, hevents, hearlier,
      hwatching, hfinds, hheard, ?_, hresult, hover⟩
    simp only [heffects, shutDown, hbefore]
    rfl

/-- Whatever happened, the effects and the result are those that `supervise` gives
for what was seen at one look and heard of later. -/
theorem supervise_of_run {setup : Except ConfigError Unit} {now : Instant}
    (hrun : (launch setup now).run events = some s) (hreturned : s.stance = .returned result) :
    ∃ moments drained, supervise setup moments drained = some (s.effects, result) := by
  rcases returned_cases hrun hreturned with ⟨cause, rfl, rfl, rfl⟩ |
    ⟨rfl, earlier, found, later, s₀, failure, first, drained, -, -, -, hfinds, -, heffects, rfl, -⟩
  · exact ⟨[], [], rfl⟩
  · obtain ⟨endings, -, hwatch⟩ := hfinds.watch
    refine ⟨[⟨s₀.cancelled, endings⟩], drained, ?_⟩
    rw [supervise_of_watch hwatch, heffects]

end Supervisor

end Flowmeter.Agent
