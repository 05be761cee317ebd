-- SUMMARY: What the intake loop does for each event that it reads, and with which event it ends.
import Flowmeter.Intake.Loop
import Flowmeter.Proofs.Flow.Samples

/-!
# Handling events

What the loop does for an event depends on that event alone, and on whether
anybody still receives records. A run is therefore its events handled one after
the other, up to the first with which the loop ends. An event that cannot be
read or decoded is no more to a run than a warning.
-/

namespace Flowmeter.Intake

variable (level : Log.Level)

/-! ## Readings -/

/-- What the source says once it is closed. -/
def atEnd : Reading := ⟨.error .closed, .nothing⟩

namespace Reading

/-- The record of an event that was read and can be decoded. -/
def record? (x : Reading) : Option RawRecord :=
  match x.result with
  | .ok event => (RawRecord.decode event).toOption
  | .error _ => none

/-- The event could not be read or cannot be decoded, and the source is not closed. -/
def IsPassedOver (x : Reading) : Prop := x.result ≠ .error .closed ∧ x.record? = none

end Reading

/-- The receiver of the records has gone away during one of the readings. -/
def isAbandoned (readings : List Reading) : Bool := readings.any (·.meanwhile.isAbandoned)

theorem isAbandoned_snoc (readings : List Reading) (x : Reading) :
    isAbandoned (readings ++ [x]) = (isAbandoned readings || x.meanwhile.isAbandoned) := by
  simp [isAbandoned]

/-- After `before`, the loop ends with `x`. -/
inductive Ends (before : List Reading) (x : Reading) : Prop where
  | closed : x.result = .error .closed → Ends before x
  | cancelled : x.meanwhile.isCancelled = true → Ends before x
  | refused {r : RawRecord} :
      x.record? = some r → isAbandoned (before ++ [x]) = true → Ends before x

/-- What is made of the result of a reading. -/
theorem receive_cases (x : Reading) :
    (x.result = .error .closed ∧ x.record? = none ∧ receive x.result = .closed) ∨
    (x.IsPassedOver ∧ ∃ cause, receive x.result = .failed (warning cause) ∨
      receive x.result = .malformed (warning cause)) ∨
    ∃ r, x.result ≠ .error .closed ∧ x.record? = some r ∧ receive x.result = .record r := by
  obtain ⟨result, meanwhile⟩ := x
  cases result with
  | error e =>
    cases e with
    | closed => exact .inl ⟨rfl, rfl, rfl⟩
    | failed failure => exact .inr (.inl ⟨⟨nofun, rfl⟩, _, .inl rfl⟩)
  | ok event =>
    refine .inr ?_
    cases hdecode : RawRecord.decode event with
    | error e =>
      refine .inl ⟨⟨nofun, ?_⟩, "parsing ring buffer event: " ++ e.message, .inr ?_⟩
      · simp [Reading.record?, hdecode, Except.toOption]
      · simp only [receive, hdecode]
    | ok r =>
      refine .inr ⟨r, nofun, ?_, ?_⟩
      · simp [Reading.record?, hdecode, Except.toOption]
      · simp only [receive, hdecode]

/-! ## One event after the other -/

namespace Reading

/-- What happens for an event. -/
def handled (x : Reading) (isReceived : Bool) : List Event :=
  .read x.meanwhile ::
    match receive x.result with
    | .closed => [sourceClosed]
    | .failed line => [.rest, .log line]
    | .malformed line => [.log line]
    | .record r => announce level r ++ if isReceived then [.forward r] else [.refuse r, receiverGone]

/-- The loop does not look further, whether it was cancelled or not. -/
def stops (x : Reading) (isReceived : Bool) : Bool :=
  match receive x.result with
  | .closed => true
  | .failed _ | .malformed _ => false
  | .record _ => !isReceived

theorem stops_iff (x : Reading) (isReceived : Bool) :
    x.stops isReceived = true ↔
      x.result = .error .closed ∨ isReceived = false ∧ ∃ r, x.record? = some r := by
  unfold stops
  obtain ⟨hclosed, -, hreceive⟩ | ⟨⟨hopen, hnone⟩, cause, hreceive | hreceive⟩ |
    ⟨r, hopen, hsome, hreceive⟩ := receive_cases x
  · rw [hreceive]
    simp [hclosed]
  · rw [hreceive]
    simp [hopen, hnone]
  · rw [hreceive]
    simp [hopen, hnone]
  · rw [hreceive]
    simp [hopen, hsome]

end Reading

/-- Nothing but a warning, and perhaps a rest before it. -/
def IsWarning (events : List Event) : Prop :=
  ∃ cause, events = [.log (warning cause)] ∨ events = [.rest, .log (warning cause)]

/-- The source is closed, or the event is passed over, or its record is announced and sent. -/
theorem handled_cases (x : Reading) (isReceived : Bool) :
    (x.result = .error .closed ∧ x.record? = none ∧ x.stops isReceived = true ∧
      x.handled level isReceived = [.read x.meanwhile, sourceClosed]) ∨
    (x.IsPassedOver ∧ x.stops isReceived = false ∧
      ∃ events, IsWarning events ∧ x.handled level isReceived = .read x.meanwhile :: events) ∨
    ∃ r, x.result ≠ .error .closed ∧ x.record? = some r ∧ x.stops isReceived = !isReceived ∧
      x.handled level isReceived = .read x.meanwhile :: announce level r
        ++ if isReceived then [.forward r] else [.refuse r, receiverGone] := by
  simp only [Reading.handled, Reading.stops]
  obtain ⟨hclosed, hnone, hreceive⟩ | ⟨hpassed, cause, hreceive | hreceive⟩ |
    ⟨r, hopen, hsome, hreceive⟩ := receive_cases x
  · rw [hreceive]
    exact .inl ⟨hclosed, hnone, rfl, rfl⟩
  · rw [hreceive]
    exact .inr (.inl ⟨hpassed, rfl, _, ⟨cause, .inr rfl⟩, rfl⟩)
  · rw [hreceive]
    exact .inr (.inl ⟨hpassed, rfl, _, ⟨cause, .inl rfl⟩, rfl⟩)
  · rw [hreceive]
    exact .inr (.inr ⟨r, hopen, hsome, rfl, rfl⟩)

/-- A record that does not end the loop is received. -/
theorem handled_of_not_stops {x : Reading} {isReceived : Bool} (h : ¬ x.stops isReceived = true) :
    x.handled level isReceived = x.handled level true := by
  unfold Reading.stops at h
  unfold Reading.handled
  generalize receive x.result = received at h ⊢
  cases received with
  | closed => exact absurd rfl h
  | failed line => rfl
  | malformed line => rfl
  | record r =>
    obtain rfl : isReceived = true := by simpa using h
    rfl

theorem run_cons (isReceived : Bool) (x : Reading) (later : List Reading) :
    run level false isReceived (x :: later)
      = x.handled level (isReceived && !x.meanwhile.isAbandoned) ++
        if x.stops (isReceived && !x.meanwhile.isAbandoned) then []
        else run level x.meanwhile.isCancelled (isReceived && !x.meanwhile.isAbandoned) later := by
  obtain ⟨result, meanwhile⟩ := x
  rw [run.eq_def, Reading.handled, Reading.stops, if_neg Bool.false_ne_true]
  dsimp only
  cases receive result with
  | closed => rfl
  | failed line => rfl
  | malformed line => rfl
  | record r =>
    cases isReceived && !meanwhile.isAbandoned with
    | true => simp
    | false => simp

theorem run_cancelled (isReceived : Bool) (readings : List Reading) :
    run level true isReceived readings = [cancelled] := by
  rw [run.eq_def, if_pos rfl]

/-! ## Up to the event with which the loop ends -/

section

variable {before : List Reading} {x : Reading}

theorem ends_iff :
    Ends before x ↔
      x.stops (!isAbandoned (before ++ [x])) = true ∨ x.meanwhile.isCancelled = true := by
  rw [Reading.stops_iff, Bool.not_eq_false']
  constructor
  · intro h
    cases h with
    | closed hclosed => exact .inl (.inl hclosed)
    | cancelled hcancelled => exact .inr hcancelled
    | refused hsome habandoned => exact .inl (.inr ⟨habandoned, _, hsome⟩)
  · rintro ((hclosed | ⟨habandoned, r, hsome⟩) | hcancelled)
    · exact .closed hclosed
    · exact .refused hsome habandoned
    · exact .cancelled hcancelled

/-- What happens for the event with which the loop ends. -/
def Reading.closing (x : Reading) (isReceived : Bool) : List Event :=
  x.handled level isReceived ++ if x.stops isReceived then [] else [cancelled]

theorem isReceived_snoc (before : List Reading) (x : Reading) :
    (!isAbandoned before && !x.meanwhile.isAbandoned) = !isAbandoned (before ++ [x]) := by
  rw [isAbandoned_snoc, Bool.not_or]

theorem run_of_ends (h : Ends before x) (later : List Reading) :
    run level false (!isAbandoned before) (x :: later)
      = x.closing level (!isAbandoned (before ++ [x])) := by
  rw [run_cons, isReceived_snoc, Reading.closing]
  split
  · rfl
  · next hstops =>
    have hcancelled := (ends_iff.1 h).resolve_left hstops
    rw [hcancelled, run_cancelled]

theorem run_of_not_ends (h : ¬ Ends before x) (later : List Reading) :
    run level false (!isAbandoned before) (x :: later)
      = x.handled level true ++ run level false (!isAbandoned (before ++ [x])) later := by
  obtain ⟨hstops, hcancelled⟩ := not_or.1 (mt ends_iff.2 h)
  rw [Bool.not_eq_true] at hcancelled
  rw [run_cons, isReceived_snoc, if_neg hstops, hcancelled, handled_of_not_stops level hstops]

end

/-- A run is the events before the first that ends it, handled one after the other, and that
event; there is one, as the source closes in the end. -/
theorem run_eq (seen readings : List Reading) :
    ∃ before last unread, readings ++ [atEnd] = before ++ last :: unread ∧
      (∀ earlier x later, before = earlier ++ x :: later → ¬ Ends (seen ++ earlier) x) ∧
      Ends (seen ++ before) last ∧
      run level false (!isAbandoned seen) readings = before.flatMap (·.handled level true)
        ++ last.closing level (!isAbandoned (seen ++ before ++ [last])) := by
  induction readings generalizing seen with
  | nil =>
    refine ⟨[], atEnd, [], rfl, ?_, .closed rfl, rfl⟩
    intro earlier x later hnil
    simp at hnil
  | cons x readings ih =>
    by_cases hends : Ends seen x
    · refine ⟨[], x, readings ++ [atEnd], rfl, ?_, ?_, ?_⟩
      · intro earlier x later hnil
        simp at hnil
      · rwa [List.append_nil]
      · rw [List.append_nil]
        exact run_of_ends level hends readings
    · obtain ⟨before, last, unread, hreadings, hgoes, hlast, hrun⟩ := ih (seen ++ [x])
      rw [← List.append_cons] at hlast hrun
      refine ⟨x :: before, last, unread, by rw [List.cons_append, hreadings]; rfl, ?_, hlast, ?_⟩
      · intro earlier y later hsplit
        cases earlier with
        | nil =>
          obtain ⟨rfl, -⟩ := List.cons.inj hsplit
          rwa [List.append_nil]
        | cons z earlier =>
          obtain ⟨rfl, htail⟩ := List.cons.inj hsplit
          have hrest := hgoes earlier y later htail
          rwa [← List.append_cons] at hrest
      · rw [run_of_not_ends level hends, hrun, List.flatMap_cons]
        exact (List.append_assoc _ _ _).symm

/-! ## What others notice of a run -/

namespace Event

/-- The records that were refused. -/
def refused (run : List Event) : List RawRecord :=
  run.filterMap fun
    | .refuse r => some r
    | _ => none

/-- What the loop asks of others: to flush what they hold, and to take records. -/
def requests (run : List Event) : List Event :=
  run.filter fun
    | .flush | .forward _ | .refuse _ => true
    | _ => false

end Event

open Event

/-- Before a record is sent, everybody is told to flush if the probe's map was full. -/
def ask (send : RawRecord → Event) (r : RawRecord) : List Event :=
  (if r.metrics.errno = 7 then [.flush] else []) ++ [send r]

/-- In a part of a run there are so many readings, the records `sent` are taken, and then those
of `lost` are refused. -/
structure Notices (events : List Event) (count : Nat) (sent lost : List RawRecord) : Prop where
  readings_eq : readings events = count
  forwarded_eq : forwarded events = sent
  refused_eq : refused events = lost
  requests_eq : requests events = sent.flatMap (ask .forward) ++ lost.flatMap (ask .refuse)

namespace Notices

theorem nil : Notices [] 0 [] [] := ⟨rfl, rfl, rfl, rfl⟩

theorem read (m : Meanwhile) : Notices [.read m] 1 [] [] := ⟨rfl, rfl, rfl, rfl⟩

theorem log (line : Log.Line) : Notices [.log line] 0 [] [] := ⟨rfl, rfl, rfl, rfl⟩

theorem warning {events : List Event} (h : IsWarning events) : Notices events 0 [] [] := by
  obtain ⟨cause, rfl | rfl⟩ := h
  · exact ⟨rfl, rfl, rfl, rfl⟩
  · exact ⟨rfl, rfl, rfl, rfl⟩

theorem append {events events' : List Event} {count count' : Nat} {sent sent' lost : List RawRecord}
    (h : Notices events count sent []) (h' : Notices events' count' sent' lost) :
    Notices (events ++ events') (count + count') (sent ++ sent') lost := by
  refine ⟨?_, ?_, ?_, ?_⟩
  · rw [← h.readings_eq, ← h'.readings_eq]
    exact List.countP_append
  · rw [← h.forwarded_eq, ← h'.forwarded_eq]
    exact List.filterMap_append
  · rw [← h'.refused_eq, ← List.nil_append (refused events'), ← h.refused_eq]
    exact List.filterMap_append
  · have hrequests : requests (events ++ events') = requests events ++ requests events' :=
      List.filter_append _ _
    rw [hrequests, h.requests_eq, h'.requests_eq, List.flatMap_append]
    simp

theorem snoc_log {events : List Event} {count : Nat} {sent lost : List RawRecord}
    (h : Notices events count sent lost) (line : Log.Line) :
    Notices (events ++ [.log line]) count sent lost := by
  obtain ⟨rfl, rfl, rfl, hrequests⟩ := h
  refine ⟨?_, ?_, ?_, ?_⟩
  · simp [readings]
  · simp [forwarded]
  · simp [refused]
  · rw [← hrequests]
    simp [requests]

/-- A record is announced before it is sent. -/
theorem announce (r : RawRecord) (isReceived : Bool) :
    Notices
      (Intake.announce level r ++ if isReceived then [.forward r] else [.refuse r, receiverGone]) 0
      (if isReceived then [r] else []) (if isReceived then [] else [r]) := by
  have hfull : r.metrics.mapFull = true ↔ r.metrics.errno = 7 := by
    simp [Metrics.mapFull, Metrics.mapFullErrno]
  have hcounted : Notices
      (if Log.Level.debug.isLoggedAt level then [.count r.metrics.mapFull] else []) 0 [] [] := by
    split <;> exact ⟨rfl, rfl, rfl, rfl⟩
  have hsent : Notices ((if r.metrics.mapFull then [.flush] else [])
      ++ if isReceived then [.forward r] else [.refuse r, receiverGone]) 0
      (if isReceived then [r] else []) (if isReceived then [] else [r]) := by
    by_cases herrno : r.metrics.errno = 7
    · rw [hfull.2 herrno]
      cases isReceived <;> refine ⟨rfl, rfl, rfl, ?_⟩ <;> simp [requests, ask, herrno, receiverGone]
    · rw [Bool.eq_false_iff.2 (mt hfull.1 herrno)]
      cases isReceived <;> refine ⟨rfl, rfl, rfl, ?_⟩ <;> simp [requests, ask, herrno, receiverGone]
  unfold Intake.announce
  rw [List.append_assoc]
  exact hcounted.append hsent

end Notices

theorem notices_handled (x : Reading) (isReceived : Bool) :
    Notices (x.handled level isReceived) 1 (if isReceived then x.record?.toList else [])
      (if isReceived then [] else x.record?.toList) := by
  have hread := Notices.read x.meanwhile
  have hclosed : Notices [sourceClosed] 0 [] [] := .log _
  obtain ⟨-, hnone, -, heq⟩ | ⟨⟨-, hnone⟩, -, events, hevents, heq⟩ | ⟨r, -, hsome, -, heq⟩ :=
    handled_cases level x isReceived
  · rw [heq, hnone]
    simpa using hread.append hclosed
  · rw [heq, hnone]
    simpa using hread.append (.warning hevents)
  · rw [heq, hsome]
    simpa using hread.append (.announce level r isReceived)

theorem notices_closing (x : Reading) (isReceived : Bool) :
    Notices (x.closing level isReceived) 1 (if isReceived then x.record?.toList else [])
      (if isReceived then [] else x.record?.toList) := by
  have hhandled := notices_handled level x isReceived
  unfold Reading.closing
  split
  · rwa [List.append_nil]
  · exact hhandled.snoc_log _

theorem notices_flatMap_handled (xs : List Reading) :
    Notices (xs.flatMap (·.handled level true)) xs.length (xs.filterMap Reading.record?) [] := by
  induction xs with
  | nil => exact .nil
  | cons x xs ih =>
    have hrecords : (x :: xs).filterMap Reading.record?
        = x.record?.toList ++ xs.filterMap Reading.record? := by
      rw [List.filterMap_cons]
      cases x.record? <;> rfl
    rw [List.flatMap_cons, hrecords, List.length_cons, Nat.add_comm]
    exact (notices_handled level x true).append ih

/-! ## Events that are passed over -/

/-- An event between `readings` and `later` that is passed over adds a warning to the run, if
it is read, and changes nothing else. If nothing happens while it is read, it might as well
be missing. -/
def PassesOver (isCancelled isReceived : Bool) (readings later : List Reading) (m : Meanwhile) :
    Prop :=
  ∃ before after : List Event,
    (∀ result, Reading.IsPassedOver ⟨result, m⟩ →
      ∃ own, (own = [] ∨ ∃ events, IsWarning events ∧ own = .read m :: events) ∧
        run level isCancelled isReceived (readings ++ ⟨result, m⟩ :: later) = before ++ own ++ after) ∧
    (m = .nothing → run level isCancelled isReceived (readings ++ later) = before ++ after)

theorem passesOver_cancelled (isReceived : Bool) (readings later : List Reading) (m : Meanwhile) :
    PassesOver level true isReceived readings later m :=
  ⟨[cancelled], [], fun _ _ => ⟨[], .inl rfl, run_cancelled _ _ _⟩, fun _ => run_cancelled _ _ _⟩

theorem passesOver_nil (isReceived : Bool) (later : List Reading) (m : Meanwhile) :
    PassesOver level false isReceived [] later m := by
  refine ⟨[], run level m.isCancelled (isReceived && !m.isAbandoned) later, ?_, ?_⟩
  · intro result ⟨hopen, hnone⟩
    obtain ⟨hclosed, -⟩ | ⟨-, hstops, events, hevents, heq⟩ | ⟨r, -, hsome, -⟩ :=
      handled_cases level ⟨result, m⟩ (isReceived && !m.isAbandoned)
    · exact absurd hclosed hopen
    · refine ⟨_, .inr ⟨events, hevents, rfl⟩, ?_⟩
      rw [List.nil_append, run_cons, heq, hstops]
      rfl
    · rw [hnone] at hsome
      cases hsome
  · rintro rfl
    simp [Meanwhile.nothing]

theorem passesOver (isCancelled isReceived : Bool) (readings later : List Reading) (m : Meanwhile) :
    PassesOver level isCancelled isReceived readings later m := by
  induction readings generalizing isCancelled isReceived with
  | nil =>
    cases isCancelled with
    | true => exact passesOver_cancelled level isReceived [] later m
    | false => exact passesOver_nil level isReceived later m
  | cons x readings ih =>
    cases isCancelled with
    | true => exact passesOver_cancelled level isReceived (x :: readings) later m
    | false =>
      obtain ⟨before, after, hwith, hwithout⟩ :=
        ih x.meanwhile.isCancelled (isReceived && !x.meanwhile.isAbandoned)
      simp only [PassesOver, List.cons_append, run_cons]
      split
      · -- The loop ends before it gets to the event.
        refine ⟨x.handled level (isReceived && !x.meanwhile.isAbandoned), [],
          fun result _ => ⟨[], .inl rfl, ?_⟩, fun _ => rfl⟩
        simp only [List.append_nil]
      · refine ⟨x.handled level (isReceived && !x.meanwhile.isAbandoned) ++ before, after, ?_, ?_⟩
        · intro result hpassed
          obtain ⟨own, hown, heq⟩ := hwith result hpassed
          refine ⟨own, hown, ?_⟩
          rw [heq]
          simp only [List.append_assoc]
        · intro hnothing
          rw [hwithout hnothing, List.append_assoc]

/-! ## Whole runs -/

theorem exists_exit_closing (x : Reading) (isReceived : Bool) :
    ∃ events, ∃ exit ∈ [sourceClosed, receiverGone, cancelled],
      x.closing level isReceived = events ++ [exit] := by
  unfold Reading.closing
  obtain ⟨-, -, hstops, heq⟩ | ⟨-, hstops, -⟩ | ⟨r, -, -, hstops, heq⟩ := handled_cases level x isReceived
  · rw [hstops, heq]
    exact ⟨[.read x.meanwhile], sourceClosed, by simp, rfl⟩
  · rw [hstops]
    exact ⟨_, cancelled, by simp, rfl⟩
  · rw [hstops, heq]
    cases isReceived with
    | true => exact ⟨_, cancelled, by simp, rfl⟩
    | false =>
      refine ⟨.read x.meanwhile :: announce level r ++ [.refuse r], receiverGone, by simp, ?_⟩
      simp

/-- Of the readings of a source that is closed in the end, the loop makes those up to the first
with which it ends: the source is closed, the loop is cancelled meanwhile, or there is a record
and nobody to receive it. It forwards the records of all events that it reads and can decode,
but the one that is refused, and asks for a flush before it sends a record of which the probe's
error number is 7. Events that cannot be read or decoded leave nothing but warnings. -/
theorem run_handles_each_event :
    (∀ readings : List Reading, ∃ (before : List Reading) (last : Reading) (unread : List Reading),
      readings ++ [⟨.error .closed, .nothing⟩] = before ++ last :: unread ∧
      (∀ earlier x later, before = earlier ++ x :: later → ¬ Ends earlier x) ∧
      Ends before last ∧
      Event.readings (run level false true readings) = before.length + 1 ∧
      forwarded (run level false true readings) ++ refused (run level false true readings)
        = (before ++ [last]).filterMap Reading.record? ∧
      refused (run level false true readings)
        = (if isAbandoned (before ++ [last]) then last.record?.toList else []) ∧
      requests (run level false true readings)
        = (forwarded (run level false true readings)).flatMap (ask .forward)
          ++ (refused (run level false true readings)).flatMap (ask .refuse) ∧
      ∃ events, ∃ exit ∈ [sourceClosed, receiverGone, cancelled],
        run level false true readings = events ++ [exit]) ∧
    ∀ (readings later : List Reading) (m : Meanwhile), ∃ before after : List Event,
      (∀ result, Reading.IsPassedOver ⟨result, m⟩ →
        ∃ own, (own = [] ∨ ∃ events, IsWarning events ∧ own = .read m :: events) ∧
          run level false true (readings ++ ⟨result, m⟩ :: later) = before ++ own ++ after) ∧
      (m = .nothing → run level false true (readings ++ later) = before ++ after) := by
  refine ⟨fun readings => ?_, passesOver level false true⟩
  obtain ⟨before, last, unread, hreadings, hgoes, hends, hrun⟩ := run_eq level [] readings
  have hrun : run level false true readings = before.flatMap (·.handled level true)
      ++ last.closing level (!isAbandoned (before ++ [last])) := hrun
  obtain ⟨hcount, hsent, hlost, hrequests⟩ := (notices_flatMap_handled level before).append
    (notices_closing level last (!isAbandoned (before ++ [last])))
  rw [← hrun] at hcount hsent hlost hrequests
  obtain ⟨events, exit, hexit, hclosing⟩ :=
    exists_exit_closing level last (!isAbandoned (before ++ [last]))
  refine ⟨before, last, unread, hreadings, hgoes, hends, hcount, ?_, ?_, ?_,
    before.flatMap (·.handled level true) ++ events, exit, hexit, ?_⟩
  · have hlast : [last].filterMap Reading.record? = last.record?.toList := by
      rw [List.filterMap_cons]
      cases last.record? <;> rfl
    rw [hsent, hlost, List.filterMap_append, hlast]
    cases isAbandoned (before ++ [last]) <;> simp
  · rw [hlost]
    cases isAbandoned (before ++ [last]) <;> rfl
  · rw [hrequests, hsent, hlost]
  · rw [hrun, hclosing, List.append_assoc]

/-- Behind a reading that fails and an event that is too short stands a record of which the
error number is 7. While the next short event is read the receiver goes away, so the record
behind it is refused, and the last one is not read. -/
def troubled : List Reading :=
  [⟨.error (.failed ⟨.other, "Input/output error (os error 5)"⟩), .nothing⟩,
    ⟨.ok [1, 2, 3], .nothing⟩,
    ⟨.ok (RawRecord.encode ⟨.tcpFrom 1 3, { Metrics.ofPacket 60 5 with errno := 7 }⟩), .nothing⟩,
    ⟨.ok [], .receiverGone⟩,
    ⟨.ok (RawRecord.encode ⟨.tcpFrom 2 3, .ofPacket 70 6⟩), ⟨true, true⟩⟩,
    ⟨.ok (RawRecord.encode ⟨.tcpFrom 3 3, .ofPacket 80 7⟩), .nothing⟩]

/-- Without the short event at place 1 the run only lacks its warning. -/
theorem run_handles_each_event_troubled :
    (∃ before last unread, troubled ++ [⟨.error .closed, .nothing⟩] = before ++ last :: unread ∧
      Ends before last ∧ before.length = 4 ∧
      requests (run .debug false true troubled)
        = (forwarded (run .debug false true troubled)).flatMap (ask .forward)
          ++ (refused (run .debug false true troubled)).flatMap (ask .refuse)) ∧
    requests (run .debug false true troubled)
      = [.flush, .forward ⟨.tcpFrom 1 3, { Metrics.ofPacket 60 5 with errno := 7 }⟩,
        .refuse ⟨.tcpFrom 2 3, .ofPacket 70 6⟩] ∧
    ∃ before own after : List Event,
      (own = [] ∨ ∃ events, IsWarning events ∧ own = .read .nothing :: events) ∧
      run .debug false true troubled = before ++ own ++ after ∧
      run .debug false true (troubled.eraseIdx 1) = before ++ after := by
  obtain ⟨before, last, unread, hreadings, -, hends, hcount, -, -, hrequests, -⟩ :=
    (run_handles_each_event .debug).1 troubled
  have hfive : Event.readings (run .debug false true troubled) = 5 := by decide +kernel
  have hlength : before.length = 4 := Nat.succ.inj (hcount.symm.trans hfive)
  obtain ⟨earlier, after, hwith, hwithout⟩ :=
    (run_handles_each_event .debug).2 (troubled.take 1) (troubled.drop 2) .nothing
  obtain ⟨own, hown, hrun⟩ := hwith (.ok [1, 2, 3]) ⟨nofun, rfl⟩
  exact ⟨⟨before, last, unread, hreadings, hends, hlength, hrequests⟩, by decide +kernel,
    earlier, own, after, hown, hrun, hwithout rfl⟩

end Flowmeter.Intake
