-- SUMMARY: A run of an agent, with the actions of its stages, is a run of the supervisor step by step.
import Flowmeter.Proofs.Agent.Settings
import Flowmeter.Proofs.Agent.Supervisor
import Flowmeter.Proofs.Pipeline.Endings

/-!
# Supervised runs

While an agent runs, its stages act until something ends the run and then until
they have finished or their time is over. The supervisor sees of that the
endings alone, in their order. With a look in between it goes through the events
to the effects and the result of the run.
-/

namespace Flowmeter

/-! ## Endings while the stages act -/

namespace Pipeline

/-- `q` comes after `p`: endings stay, and those that are new are noted as well. -/
structure Precedes (p q : Pipeline) : Prop where
  noted : p.Noted → q.Noted
  endings : ∃ later, q.endings = p.endings ++ later

namespace Precedes

variable {p q r : Pipeline}

theorem refl (p : Pipeline) : p.Precedes p where
  noted hp := hp
  endings := ⟨[], (List.append_nil _).symm⟩

theorem trans (h : p.Precedes q) (h' : q.Precedes r) : p.Precedes r := by
  obtain ⟨later, hq⟩ := h.endings
  obtain ⟨last, hr⟩ := h'.endings
  refine ⟨fun hp => h'.noted (h.noted hp), later ++ last, ?_⟩
  rw [hr, hq, List.append_assoc]

theorem of_next? (h : p.next? = some q) : p.Precedes q := by
  obtain ⟨action, -, happly⟩ := List.exists_of_findSome?_eq_some h
  have hstep := step_of_apply (show (Act.stage action).apply p = some q from happly)
  exact ⟨hstep.noted, hstep.extends.2⟩

theorem advance (count : Nat) (p : Pipeline) : p.Precedes (p.advance count) := by
  induction count generalizing p with
  | zero => exact refl p
  | succ count ih =>
    rw [Pipeline.advance]
    split
    · exact refl p
    · next q hnext => exact (of_next? hnext).trans (ih q)

theorem settle (p : Pipeline) : p.Precedes p.settle := advance _ p

theorem pass (goesOn : Pipeline → Instant → Bool) (count : Nat) (p : Pipeline) :
    p.Precedes (p.pass goesOn count) := by
  induction count generalizing p with
  | zero => exact settle p
  | succ count ih =>
    rw [Pipeline.pass]
    split
    · exact settle p
    · next moment _ =>
      split
      · have hmoves : p.settle.Precedes { p.settle with now := moment } :=
          ⟨fun hp => ⟨hp.nodup, hp.mem_iff⟩, [], (List.append_nil _).symm⟩
        exact ((settle p).trans hmoves).trans (ih _)
      · exact settle p

end Precedes

end Pipeline

/-! ## Events -/

namespace Agent

namespace Supervisor

variable {s : Supervisor} {failure : Option RunError} {deadline : Instant}

def endingEvents (endings : List (Stage × Ending)) : List Event :=
  endings.map fun e => .ending e.1 e.2

def hearingEvents (endings : List (Stage × Ending)) : List Event :=
  endings.map fun e => .hear e.1 e.2

/-- Stages that end one by one, each of them once. -/
theorem run_endingEvents (hopen : ∀ result, s.stance ≠ .returned result)
    (endings : List (Stage × Ending)) (hnodup : ((s.endings ++ endings).map Prod.fst).Nodup) :
    s.run (endingEvents endings) = some { s with endings := s.endings ++ endings } := by
  induction endings generalizing s with
  | nil => simp [endingEvents, run]
  | cons e endings ih =>
    have hnew : s.hasEnded e.1 = false := by
      rw [hasEnded, List.any_eq_false]
      intro other hother hsame
      rw [List.map_append, List.nodup_append] at hnodup
      exact hnodup.2.2 _ (List.mem_map_of_mem hother) e.1 (by simp) (of_decide_eq_true hsame)
    have hnext : s.next (.ending e.1 e.2) = some { s with endings := s.endings ++ [e] } := by
      unfold next
      cases hstance : s.stance with
      | watching => simp [hnew]
      | draining failure deadline => simp [hnew]
      | returned result => exact absurd hstance (hopen result)
    have hlater := ih (s := { s with endings := s.endings ++ [e] }) hopen (by simpa using hnodup)
    rw [endingEvents, List.map_cons, run, hnext]
    refine hlater.trans ?_
    simp

/-- Endings that are heard of one by one. -/
theorem run_hearingEvents (hstance : s.stance = .draining failure deadline)
    {endings : List (Stage × Ending)} (hmem : ∀ e ∈ endings, e ∈ s.endings)
    (hnodup : (s.heard ++ endings).Nodup) :
    s.run (hearingEvents endings) = some
      { s with heard := s.heard ++ endings, effects := s.effects ++ endings.map noteOf } := by
  induction endings generalizing s with
  | nil => simp [hearingEvents, run]
  | cons e endings ih =>
    have hpending : (e.1, e.2) ∈ s.pending := by
      rw [List.nodup_append] at hnodup
      have hnew : e ∉ s.heard := fun hheard => hnodup.2.2 e hheard e (by simp) rfl
      exact List.mem_filter.2 ⟨hmem e (by simp), by simpa using hnew⟩
    have hnext : s.next (.hear e.1 e.2) = some
        { s with heard := s.heard ++ [e], effects := s.effects ++ [noteOf e] } := by
      simp [next, hstance, hear, hpending, noteOf]
    have hlater := ih
      (s := { s with heard := s.heard ++ [e], effects := s.effects ++ [noteOf e] }) hstance
      (fun other hother => hmem other (List.mem_cons_of_mem e hother)) (by simpa using hnodup)
    rw [hearingEvents, List.map_cons, run, hnext]
    refine hlater.trans ?_
    simp

theorem run_append_of_run {s₁ : Supervisor} {events later : List Event}
    (h : s.run events = some s₁) : s.run (events ++ later) = s₁.run later := by
  rw [run_append, h, Option.bind_some]

/-- Once the wait is over, more stages may end, the supervisor may hear of all that is
left, and it returns when the time is over. -/
theorem exists_run_draining (hstance : s.stance = .draining failure deadline)
    {rest later : List (Stage × Ending)} (hendings : s.endings = s.heard ++ rest)
    (hnodup : ((s.endings ++ later).map Prod.fst).Nodup) :
    ∃ events s', s.run events = some s' ∧ s'.stance = .returned (resultOf failure) ∧
      s'.effects = s.effects ++ (rest ++ later).map noteOf
        ++ [.stopStages, .report (lastStatus failure)] := by
  have hends := run_endingEvents (s := s) (by simp [hstance]) later hnodup
  have hall : s.endings ++ later = s.heard ++ (rest ++ later) := by
    rw [hendings, List.append_assoc]
  have hmem : ∀ e ∈ rest ++ later, e ∈ s.endings ++ later := by
    intro e he
    rw [hall]
    exact List.mem_append_right _ he
  have hapart : (s.heard ++ (rest ++ later)).Nodup := by
    rw [← hall]
    exact List.Pairwise.of_map Prod.fst (fun _ _ hne heq => hne (congrArg Prod.fst heq)) hnodup
  have hhears := run_hearingEvents (s := { s with endings := s.endings ++ later }) hstance hmem hapart
  refine ⟨endingEvents later ++ (hearingEvents (rest ++ later) ++ [.pass deadline, .finish]),
    { s with
      now := s.now + deadline
      endings := s.endings ++ later
      heard := s.heard ++ (rest ++ later)
      stance := .returned (resultOf failure)
      effects := s.effects ++ (rest ++ later).map noteOf
        ++ [.stopStages, .report (lastStatus failure)] }, ?_, rfl, rfl⟩
  rw [run_append_of_run hends, run_append_of_run hhears]
  simp [run, next, hstance, finish]

/-- A look that ends the wait, and what may happen after it. -/
theorem exists_run_look (found : Option (Stage × Ending)) {first : List (Stage × Ending)}
    (rest later : List (Stage × Ending)) (hwatching : s.stance = .watching)
    (hfinds : Finds s found failure first) (hendings : s.endings = first ++ rest)
    (hheard : s.heard = []) (hnodup : ((s.endings ++ later).map Prod.fst).Nodup) :
    ∃ events s', s.run (.look found :: events) = some s' ∧
      s'.stance = .returned (resultOf failure) ∧
      s'.effects = s.effects ++ [.report .stopping, .closeSource] ++ (rest ++ later).map noteOf
        ++ [.stopStages, .report (lastStatus failure)] := by
  have hnext : s.next (.look found) = some { s.shutDown failure with heard := first } := by
    cases hfinds with
    | cancelled hcancelled =>
      rw [next_of_cancelled hwatching hcancelled, ← hheard]
      rfl
    | ended hgoes hpending hfound =>
      subst hfound
      simp [next, hwatching, look, hgoes, hpending]
  obtain ⟨events, s', hrun, hreturned, heffects⟩ :=
    exists_run_draining (s := { s.shutDown failure with heard := first }) rfl hendings hnodup
  refine ⟨events, s', ?_, hreturned, heffects⟩
  rw [run, hnext]
  exact hrun

end Supervisor

/-! ## Runs of an agent -/

open Supervisor Pipeline

variable {endings later : List (Stage × Ending)}

/-- A run that is cancelled while no stage has ended. -/
theorem exists_run_cancelled (hnodup : (later.map Prod.fst).Nodup) :
    ∃ events s, (launch (.ok ()) 0).run events = some s ∧ s.stance = .returned (.ok ()) ∧
      s.effects = [.report .starting, .report .started, .report .stopping, .closeSource]
        ++ later.map noteOf ++ [.stopStages, .report .stopped] := by
  obtain ⟨events, s, hrun, hreturned, heffects⟩ := exists_run_look
    (s := { launch (.ok ()) 0 with cancelled := true }) none [] later rfl (.cancelled rfl) rfl rfl
    hnodup
  exact ⟨.cancel :: .look none :: events, s, hrun, hreturned, heffects⟩

/-- A run of which a stage ends by itself. -/
theorem exists_run_ended {e : Stage × Ending}
    (hnodup : ((e :: endings ++ later).map Prod.fst).Nodup) :
    ∃ events s, (launch (.ok ()) 0).run events = some s ∧
      s.stance = .returned (.error (.ofEnding e.1 e.2)) ∧
      s.effects = [.report .starting, .report .started, .report .stopping, .closeSource]
        ++ (endings ++ later).map noteOf ++ [.stopStages, .report .failed] := by
  have hfirst : ((e :: endings).map Prod.fst).Nodup := by
    rw [List.map_append] at hnodup
    exact (List.nodup_append.1 hnodup).1
  have hends := run_endingEvents (s := launch (.ok ()) 0) (by simp [launch]) (e :: endings) hfirst
  obtain ⟨events, s, hrun, hreturned, heffects⟩ := exists_run_look
    (s := { launch (.ok ()) 0 with endings := e :: endings }) (some e) endings later rfl
    (.ended rfl (by simp [pending, launch]) rfl) rfl rfl hnodup
  refine ⟨endingEvents (e :: endings) ++ .look (some e) :: events, s, ?_, hreturned, heffects⟩
  rw [run_append_of_run hends]
  exact hrun

/-- What a run does is settled by the first ending before the source is closed, or by
a cancellation if there is none. -/
theorem exists_run_of_supervise {moments : List Moment} {effects : List Effect}
    {result : Except RunError Unit} (hnodup : ((endings ++ later).map Prod.fst).Nodup)
    (hcancelled : endings = [] → ∀ failure, watch moments = some failure → failure = none)
    (hended : ∀ stage e rest, endings = (stage, e) :: rest →
      watch moments = some (some (.ofEnding stage e)))
    (h : supervise (.ok ()) moments ((endings ++ later).drop (min 1 endings.length))
      = some (effects, result)) :
    ∃ events s, (launch (.ok ()) 0).run events = some s ∧ s.stance = .returned result ∧
      s.effects = effects := by
  cases endings with
  | nil =>
    cases hwatch : watch moments with
    | none => simp [supervise, hwatch] at h
    | some failure =>
      obtain rfl := hcancelled rfl failure hwatch
      rw [supervise_of_watch hwatch] at h
      obtain ⟨rfl, rfl⟩ := Prod.mk.inj (Option.some.inj h)
      exact exists_run_cancelled hnodup
  | cons e rest =>
    rw [supervise_of_watch (hended e.1 e.2 rest rfl)] at h
    obtain ⟨rfl, rfl⟩ := Prod.mk.inj (Option.some.inj h)
    exact exists_run_ended hnodup

theorem afterShutdown_endings {p : Pipeline} (hp : p.Noted) :
    ∃ later, (afterShutdown p).endings = p.endings ++ later ∧
      ((p.endings ++ later).map Prod.fst).Nodup := by
  have hpass : ({ p with sourceClosed := true } : Pipeline).Precedes (afterShutdown p) :=
    Precedes.pass _ _ _
  obtain ⟨later, hlater⟩ := hpass.endings
  have hnoted := hpass.noted ⟨hp.nodup, hp.mem_iff⟩
  exact ⟨later, hlater, hlater ▸ hnoted.nodup⟩

theorem untilShutdown_noted {setup : Pipeline.Setup} (hcomplete : setup.IsComplete)
    (world : World) : (untilShutdown setup world).Noted := by
  have hstart := start_noted hcomplete 0
  have hsource : ∀ closes, ({ Pipeline.start setup 0 with
      source := world.source, sourceClosed := closes } : Pipeline).Noted :=
    fun _ => ⟨hstart.nodup, hstart.mem_iff⟩
  unfold untilShutdown
  dsimp only
  split
  · exact hsource _
  · exact (Precedes.settle _).noted (hsource _)
  · exact (Precedes.pass _ _ _).noted (hsource _)
  · exact (Precedes.pass _ _ _).noted (hsource _)

/-- If a stage has ended, the run fails, unless it is cancelled before it starts. -/
theorem watch_moments_cons {world : World} (hbefore : world.stimulus ≠ .cancelledBefore)
    (stage : Stage) (e : Ending) (rest : List (Stage × Ending)) :
    watch (world.moments ((stage, e) :: rest)) = some (some (.ofEnding stage e)) := by
  cases hstimulus : world.stimulus with
  | cancelledBefore => exact absurd hstimulus hbefore
  | cancellation => simp [World.moments, hstimulus, watch]
  | sourceCloses => simp [World.moments, hstimulus, watch]
  | none => simp [World.moments, hstimulus, watch]

/-- If no stage has ended, only a cancellation can end the run. -/
theorem eq_none_of_watch_moments {world : World} {failure : Option RunError}
    (h : watch (world.moments []) = some failure) : failure = none := by
  cases hstimulus : world.stimulus <;> simp_all [World.moments, watch]

/-- Whatever the stages do, the outcome is that of a run of the supervisor. -/
theorem exists_run_of_runStages {setup : Pipeline.Setup} (hcomplete : setup.IsComplete)
    {world : World} {o : Outcome} (h : runStages setup world = some o) :
    ∃ events s, (launch (.ok ()) 0).run events = some s ∧ s.stance = .returned o.result ∧
      s.effects = o.effects := by
  obtain ⟨⟨effects, result⟩, hsupervise, ho⟩ := Option.bind_eq_some_iff.1 h
  obtain rfl := Option.some.inj ho
  obtain ⟨later, hlater, hnodup⟩ := afterShutdown_endings (untilShutdown_noted hcomplete world)
  rw [hlater] at hsupervise
  refine exists_run_of_supervise hnodup ?_ ?_ hsupervise
  · intro hnothing failure hwatch
    rw [hnothing] at hwatch
    exact eq_none_of_watch_moments hwatch
  · intro stage e rest hendings
    rw [hendings]
    apply watch_moments_cons
    intro hbefore
    rw [untilShutdown, hbefore] at hendings
    cases hendings

theorem setup_isComplete {a : Agent} {clock : Clock} {names : Link.Table} {failsAt : Option Nat}
    {setup : Pipeline.Setup} (h : a.setup clock names failsAt = .ok (.ok setup)) :
    setup.IsComplete := by
  obtain ⟨kind, mode, expiry, -, rfl⟩ := setup_eq_ok_iff.1 h
  exact Stage.mem_all

/-- Each outcome of an agent is that of a run of its supervisor. -/
theorem exists_run_of_outcome {a : Agent} {world : World} {o : Outcome}
    (h : a.run world = .ok (some o)) :
    ∃ setup events s, a.setup world.clock world.names world.exporterFailsAt = .ok setup ∧
      (launch (setup.map fun _ => ()) 0).run events = some s ∧
      s.stance = .returned o.result ∧ s.effects = o.effects := by
  unfold run at h
  split at h
  · cases h
  · next cause hsetup =>
    obtain rfl := Option.some.inj (Except.ok.inj h)
    exact ⟨_, [], _, hsetup, rfl, rfl, rfl⟩
  · next setup hsetup =>
    split at h
    · cases h
    · obtain ⟨events, s, hrun, hreturned, heffects⟩ :=
        exists_run_of_runStages (setup_isComplete hsetup) (Except.ok.inj h)
      exact ⟨_, events, s, hsetup, hrun, hreturned, heffects⟩

end Agent

end Flowmeter
