-- SUMMARY: A reader that fails between two pieces: behind each failure the content is cut anew.
import Flowmeter.Intake.Loop
import Flowmeter.Proofs.Intake.Cutting

/-!
# Outages

A reading that fails gives up the part of an event that it has collected, and
the next one begins an event with whatever comes after the failure. So each
stretch of the content between two failures is cut on its own, from its own
beginning. What a stretch holds beyond its last whole event is lost.

The events are therefore those of the whole content just if every stretch that
holds an event begins where one of these does. A failure inside an event shifts
all events up to the next failure.
-/

namespace Flowmeter.Intake

/-! ## Readers that fail -/

/-- A failure, and what is delivered between it and the next one. -/
structure Outage where
  failure : Failure
  resumed : List Delivery

namespace Outage

/-- A reading fails at it, and then there are bytes again. -/
structure IsTransient (o : Outage) : Prop where
  kind_eq : o.failure.kind = .other
  resumed : AllSteady o.resumed

def deliveries (o : Outage) : List Delivery := .failure o.failure :: o.resumed

end Outage

/-- All that is delivered, `first` of it before any failure. -/
def disturbed (first : List Delivery) (outages : List Outage) : List Delivery :=
  first ++ outages.flatMap Outage.deliveries

/-- Deliveries of a reader that may fail, in whatever order, are of this form. -/
theorem exists_disturbed {deliveries : List Delivery}
    (h : ∀ d ∈ deliveries, d.IsSteady ∨ ∃ f : Failure, f.kind = .other ∧ d = .failure f) :
    ∃ first outages, deliveries = disturbed first outages ∧ AllSteady first ∧
      ∀ o ∈ outages, o.IsTransient := by
  induction deliveries with
  | nil => exact ⟨[], [], rfl, List.forall_mem_nil _, List.forall_mem_nil _⟩
  | cons d deliveries ih =>
    obtain ⟨hd, hlater⟩ := List.forall_mem_cons.1 h
    obtain ⟨first, outages, rfl, hfirst, houtages⟩ := ih hlater
    rcases hd with hd | ⟨f, hkind, rfl⟩
    · exact ⟨d :: first, outages, rfl, List.forall_mem_cons.2 ⟨hd, hfirst⟩, houtages⟩
    · exact ⟨[], ⟨f, first⟩ :: outages, rfl, List.forall_mem_nil _,
        List.forall_mem_cons.2 ⟨⟨hkind, hfirst⟩, houtages⟩⟩

/-- The content of the deliveries, divided at the failures. -/
def stretches (first : List Delivery) (outages : List Outage) : List Bytes :=
  contentOf first :: outages.map fun o => contentOf o.resumed

theorem contentOf_disturbed (first : List Delivery) (outages : List Outage) :
    contentOf (disturbed first outages) = (stretches first outages).flatten := by
  have houtages : contentOf (outages.flatMap Outage.deliveries)
      = (outages.map fun o => contentOf o.resumed).flatten := by
    rw [contentOf, List.flatMap_assoc, List.flatMap_def]
    rfl
  rw [disturbed, contentOf, List.flatMap_append, ← contentOf, ← contentOf, houtages]
  rfl

/-! ## Cutting a stretch -/

/-- The bytes of an event that begins at `place`. -/
def blockFrom (content : Bytes) (place : Nat) : Bytes := (content.drop place).take 89

/-- Where the events of a stretch begin that itself begins at `start`. -/
def placesIn (start : Nat) (stretch : Bytes) : List Nat :=
  (List.range (stretch.length / 89)).map fun i => start + 89 * i

/-- The whole events of a stretch. -/
def cut (stretch : Bytes) : List Bytes := (placesIn 0 stretch).map (blockFrom stretch)

theorem mem_placesIn {start place : Nat} {stretch : Bytes} :
    place ∈ placesIn start stretch ↔
      ∃ i, 89 * i + 89 ≤ stretch.length ∧ place = start + 89 * i := by
  simp only [placesIn, List.mem_map, List.mem_range]
  constructor
  · rintro ⟨i, hi, rfl⟩
    exact ⟨i, by omega, rfl⟩
  · rintro ⟨i, hi, rfl⟩
    exact ⟨i, by omega, rfl⟩

/-- An event lies in its stretch, wherever that lies in the content. -/
theorem map_blockFrom_placesIn (before stretch after : Bytes) :
    (placesIn before.length stretch).map (blockFrom (before ++ (stretch ++ after)))
      = cut stretch := by
  simp only [cut, placesIn, List.map_map]
  refine List.map_congr_left fun i hi => ?_
  have hwhole : 89 ≤ (stretch.drop (89 * i)).length := by
    rw [List.length_drop]
    have := List.mem_range.1 hi
    omega
  have hplace : (before ++ (stretch ++ after)).drop (before.length + 89 * i)
      = stretch.drop (89 * i) ++ after := by
    rw [← List.drop_drop, List.drop_left, List.drop_append_of_le_length]
    have := List.mem_range.1 hi
    omega
  simp only [Function.comp_apply, blockFrom, hplace, Nat.zero_add,
    List.take_append_of_le_length hwhole]

theorem cut_of_short {stretch : Bytes} (h : stretch.length < 89) : cut stretch = [] := by
  rw [cut, placesIn, Nat.div_eq_of_lt h]
  rfl

theorem cut_of_long {stretch : Bytes} (h : 89 ≤ stretch.length) :
    cut stretch = stretch.take 89 :: cut (stretch.drop 89) := by
  have hcount : stretch.length / 89 = (stretch.drop 89).length / 89 + 1 := by
    rw [List.length_drop]
    omega
  rw [cut, cut, placesIn, hcount, List.range_succ_eq_map]
  simp only [placesIn, List.map_cons, List.map_map, blockFrom, Function.comp_def, List.drop_drop]
  refine congrArg _ (List.map_congr_left fun i _ => ?_)
  rw [show 0 + 89 * (i + 1) = 89 + (0 + 89 * i) by omega]

/-- The events of all stretches together, and where they begin. -/
def placesFrom (start : Nat) : List Bytes → List Nat
  | [] => []
  | stretch :: later => placesIn start stretch ++ placesFrom (start + stretch.length) later

theorem map_blockFrom_placesFrom (before : Bytes) (stretches : List Bytes) :
    (placesFrom before.length stretches).map (blockFrom (before ++ stretches.flatten))
      = stretches.flatMap cut := by
  induction stretches generalizing before with
  | nil => rfl
  | cons stretch later ih =>
    rw [placesFrom, List.map_append, List.flatten_cons, map_blockFrom_placesIn, List.flatMap_cons,
      ← List.append_assoc, ← List.length_append, ih]

theorem add_le_of_mem_placesFrom {start place : Nat} {stretches : List Bytes}
    (h : place ∈ placesFrom start stretches) :
    place + 89 ≤ start + stretches.flatten.length := by
  induction stretches generalizing start with
  | nil => cases h
  | cons stretch later ih =>
    rw [List.flatten_cons, List.length_append]
    rcases List.mem_append.1 h with h | h
    · obtain ⟨i, hi, rfl⟩ := mem_placesIn.1 h
      omega
    · have := ih h
      omega

/-- Whether each stretch that holds an event begins where the content, cut from its
own beginning, has one begin. -/
def OnGrid (start : Nat) (stretches : List Bytes) : Prop :=
  ∀ before stretch later, stretches = before ++ stretch :: later → 89 ≤ stretch.length →
    89 ∣ start + before.flatten.length

theorem onGrid_cons {start : Nat} {stretch : Bytes} {later : List Bytes} :
    OnGrid start (stretch :: later) ↔
      (89 ≤ stretch.length → 89 ∣ start) ∧ OnGrid (start + stretch.length) later := by
  constructor
  · intro h
    refine ⟨h [] stretch later rfl, ?_⟩
    rintro before next rest rfl hlong
    have hnext := h (stretch :: before) next rest rfl hlong
    rwa [List.flatten_cons, List.length_append, ← Nat.add_assoc] at hnext
  · rintro ⟨hfirst, hlater⟩ before next rest hsplit hlong
    cases before with
    | nil =>
      obtain ⟨rfl, -⟩ := List.cons.inj hsplit
      exact hfirst hlong
    | cons head before =>
      obtain ⟨rfl, rfl⟩ := List.cons.inj hsplit
      have hnext := hlater before next rest rfl hlong
      rwa [List.flatten_cons, List.length_append, ← Nat.add_assoc]

theorem forall_mem_placesFrom_iff {start : Nat} {stretches : List Bytes} :
    (∀ place ∈ placesFrom start stretches, 89 ∣ place) ↔ OnGrid start stretches := by
  induction stretches generalizing start with
  | nil => simp [placesFrom, OnGrid]
  | cons stretch later ih =>
    rw [onGrid_cons, ← ih, placesFrom, List.forall_mem_append]
    refine and_congr_left fun _ => ⟨fun h hlong => ?_, fun h place hplace => ?_⟩
    · exact h start (mem_placesIn.2 ⟨0, hlong, rfl⟩)
    · obtain ⟨i, hi, rfl⟩ := mem_placesIn.1 hplace
      exact (Nat.dvd_add_left (Nat.dvd_mul_right 89 i)).2 (h (Nat.le_trans (Nat.le_add_left _ _) hi))

/-! ## Readings that fail -/

namespace EventStream

variable {first later deliveries : List Delivery} {outages : List Outage} {ending : Option Failure}
  {s s' s'' : EventStream} {results results' : List (Except ReadError Bytes)}

/-- Successive readings have `results` and leave `s'`. -/
def Yields (s : EventStream) (results : List (Except ReadError Bytes)) (s' : EventStream) : Prop :=
  s.readTimes results.length = (results, s')

theorem Yields.cons {result : Except ReadError Bytes} (hread : s.read = (result, s'))
    (h : s'.Yields results s'') : s.Yields (result :: results) s'' := by
  rw [Yields, List.length_cons, readTimes_succ_of_read hread, h]

theorem Yields.append (h : s.Yields results s') (h' : s'.Yields results' s'') :
    s.Yields (results ++ results') s'' := by
  induction results generalizing s with
  | nil =>
    obtain ⟨-, rfl⟩ := Prod.mk.inj h
    exact h'
  | cons result results ih =>
    cases hread : s.read with
    | mk first s₁ =>
      rw [Yields, List.length_cons, readTimes_succ_of_read hread] at h
      obtain ⟨hall, hlast⟩ := Prod.mk.inj h
      obtain ⟨rfl, hresults⟩ := List.cons.inj hall
      exact .cons hread (ih (Prod.ext hresults hlast))

/-- What fewer readings have for results, and more of them if the stream is closed then. -/
theorem Yields.readTimes (h : s.Yields results s')
    (hclosed : ∀ count, (s'.readTimes count).1 = List.replicate count (.error .closed)) (count : Nat) :
    (s.readTimes count).1
      = results.take count ++ List.replicate (count - results.length) (.error .closed) := by
  induction results generalizing s count with
  | nil =>
    obtain ⟨-, rfl⟩ := Prod.mk.inj h
    rw [hclosed, List.take_nil, List.nil_append, List.length_nil, Nat.sub_zero]
  | cons result results ih =>
    cases count with
    | zero => simp [EventStream.readTimes]
    | succ count =>
      cases hread : s.read with
      | mk first s₁ =>
        rw [Yields, List.length_cons, readTimes_succ_of_read hread] at h
        obtain ⟨hall, hlast⟩ := Prod.mk.inj h
        obtain ⟨rfl, hresults⟩ := List.cons.inj hall
        rw [readTimes_succ_of_read hread, ih (Prod.ext hresults hlast), List.length_cons,
          Nat.add_sub_add_right, List.take_succ_cons, List.cons_append]

/-- The events of a stretch are read, and less than an event is left of it. -/
theorem exists_yields_cut (ending : Option Failure) (later : List Delivery)
    (hsteady : AllSteady deliveries) :
    ∃ rest, AllSteady rest ∧ (contentOf rest).length < 89 ∧
      Yields ⟨deliveries ++ later, ending, false⟩ ((cut (contentOf deliveries)).map .ok)
        ⟨rest ++ later, ending, false⟩ := by
  induction hlength : (contentOf deliveries).length using Nat.strongRecOn generalizing deliveries with
  | ind n ih =>
    by_cases hlong : 89 ≤ (contentOf deliveries).length
    · obtain ⟨rest, hrest, hcontent, hread⟩ := read_complete ending later hsteady hlong
      have hshorter : (contentOf rest).length < n := by
        rw [hcontent, List.length_drop]
        omega
      obtain ⟨last, hlast, hshort, hyields⟩ := ih _ hshorter hrest rfl
      refine ⟨last, hlast, hshort, ?_⟩
      rw [cut_of_long hlong, List.map_cons, ← hcontent]
      exact .cons hread hyields
    · have hshort := Nat.not_le.1 hlong
      refine ⟨deliveries, hsteady, hshort, ?_⟩
      rw [cut_of_short hshort]
      rfl

/-- The failure ends a reading, whatever has been collected. -/
theorem read_failure {f : Failure} (hkind : f.kind = .other) (hsteady : AllSteady deliveries)
    (hshort : (contentOf deliveries).length < 89) :
    read ⟨deliveries ++ .failure f :: later, ending, false⟩
      = (.error (.failed f), ⟨later, ending, false⟩) := by
  rw [read_pending hsteady hshort]
  simp [collect, hkind, ReadError.ofFailure]

/-- The results of reading what is delivered, up to its end. -/
def resultsOf (first : List Delivery) (outages : List Outage) : List (Except ReadError Bytes) :=
  (cut (contentOf first)).map .ok
    ++ outages.flatMap fun o => .error (.failed o.failure) :: (cut (contentOf o.resumed)).map .ok

theorem filterMap_resultsOf (first : List Delivery) (outages : List Outage) :
    (resultsOf first outages).filterMap Except.toOption = (stretches first outages).flatMap cut := by
  have hok : ∀ events : List Bytes,
      (events.map Except.ok).filterMap (Except.toOption (ε := ReadError)) = events := by
    intro events
    rw [List.filterMap_map]
    exact List.filterMap_some
  rw [resultsOf, List.filterMap_append, hok, stretches, List.flatMap_cons, List.flatMap_map,
    List.filterMap_flatMap, List.flatMap_def, List.flatMap_def]
  refine congrArg _ (congrArg _ (List.map_congr_left fun o _ => ?_))
  rw [List.filterMap_cons_none rfl, hok]

theorem exists_yields_resultsOf (hfirst : AllSteady first) (houtages : ∀ o ∈ outages, o.IsTransient) :
    ∃ rest, AllSteady rest ∧ (contentOf rest).length < 89 ∧
      Yields ⟨disturbed first outages, none, false⟩ (resultsOf first outages)
        ⟨rest, none, false⟩ := by
  induction outages generalizing first with
  | nil =>
    obtain ⟨rest, hrest, hshort, hyields⟩ := exists_yields_cut none [] hfirst
    simp only [List.append_nil] at hyields
    refine ⟨rest, hrest, hshort, ?_⟩
    rw [resultsOf, List.flatMap_nil, List.append_nil, disturbed, List.flatMap_nil, List.append_nil]
    exact hyields
  | cons o outages ih =>
    obtain ⟨ho, hlater⟩ := List.forall_mem_cons.1 houtages
    obtain ⟨rest, hrest, hshort, hyields⟩ := exists_yields_cut none
      (.failure o.failure :: disturbed o.resumed outages) hfirst
    obtain ⟨last, hlast, hlastShort, hresumed⟩ := ih ho.resumed hlater
    refine ⟨last, hlast, hlastShort, hyields.append (.cons ?_ hresumed)⟩
    exact read_failure ho.kind_eq hrest hshort

/-- Less than an event is all that is left, and then the data end. -/
theorem readTimes_of_short (hsteady : AllSteady deliveries)
    (hshort : (contentOf deliveries).length < 89) (count : Nat) :
    (readTimes count ⟨deliveries, none, false⟩).1 = List.replicate count (.error .closed) := by
  have hends : ∀ event, collect none [] false event = (.error .closed, ⟨[], none, false⟩) :=
    fun _ => rfl
  have hresults := (readTimes_of_ends hends isOver_ended hsteady count).1
  rw [List.append_nil] at hresults
  rw [hresults, List.map_congr_left fun i _ => eventAt_of_short hshort i, List.map_const',
    List.length_range]

theorem readTimes_disturbed (hfirst : AllSteady first) (houtages : ∀ o ∈ outages, o.IsTransient)
    (count : Nat) :
    (readTimes count ⟨disturbed first outages, none, false⟩).1
      = (resultsOf first outages).take count
        ++ List.replicate (count - (resultsOf first outages).length) (.error .closed) := by
  obtain ⟨rest, hrest, hshort, hyields⟩ := exists_yields_resultsOf hfirst houtages
  exact hyields.readTimes (readTimes_of_short hrest hshort) count

/-- The content of a reader that fails is cut stretch by stretch. Its events are
events of the whole content as long as each stretch that holds one begins on the
grid; they begin on it only then. -/
theorem readTimes_cuts_stretches (hfirst : AllSteady first)
    (houtages : ∀ o ∈ outages, o.IsTransient) :
    (∀ count, (readTimes count ⟨disturbed first outages, none, false⟩).1
      = (resultsOf first outages).take count
        ++ List.replicate (count - (resultsOf first outages).length) (.error .closed)) ∧
    (resultsOf first outages).filterMap Except.toOption
      = (placesFrom 0 (stretches first outages)).map (blockFrom (contentOf (disturbed first outages))) ∧
    ((∀ place ∈ placesFrom 0 (stretches first outages), 89 ∣ place)
      ↔ OnGrid 0 (stretches first outages)) ∧
    (OnGrid 0 (stretches first outages) → ∀ count event,
      .ok event ∈ (readTimes count ⟨disturbed first outages, none, false⟩).1 →
      ∃ i, eventAt (contentOf (disturbed first outages)) i = .ok event) := by
  have hresults := readTimes_disturbed hfirst houtages
  have hevents : (resultsOf first outages).filterMap Except.toOption
      = (placesFrom 0 (stretches first outages)).map
          (blockFrom (contentOf (disturbed first outages))) := by
    rw [filterMap_resultsOf, contentOf_disturbed]
    exact (map_blockFrom_placesFrom [] (stretches first outages)).symm
  refine ⟨hresults, hevents, forall_mem_placesFrom_iff, fun hgrid count event hevent => ?_⟩
  -- The event is among the results of the delivered data, so it begins at one of the places.
  have hread : .ok event ∈ resultsOf first outages := by
    rw [hresults] at hevent
    rcases List.mem_append.1 hevent with hevent | hevent
    · exact List.mem_of_mem_take hevent
    · cases List.eq_of_mem_replicate hevent
  have hmem : event ∈ (resultsOf first outages).filterMap Except.toOption :=
    List.mem_filterMap.2 ⟨_, hread, rfl⟩
  rw [hevents] at hmem
  obtain ⟨place, hplace, rfl⟩ := List.mem_map.1 hmem
  obtain ⟨i, rfl⟩ := forall_mem_placesFrom_iff.2 hgrid place hplace
  have hwhole := add_le_of_mem_placesFrom hplace
  rw [← contentOf_disturbed, Nat.zero_add] at hwhole
  refine ⟨i, if_pos ?_⟩
  omega

def readFailure : Failure := ⟨.other, "Input/output error (os error 5)"⟩

/-- An event, delivered with a delay. -/
def untilPause : List Delivery :=
  [.bytes (List.replicate 40 1), .failure ⟨.wouldBlock, ""⟩, .bytes (List.replicate 49 1)]

/-- The reader fails between two events, and then delivers one more and a part of another. -/
def pause : List Outage :=
  [⟨readFailure, [.bytes (List.replicate 60 2), .failure ⟨.interrupted, ""⟩,
    .bytes (List.replicate 29 2 ++ List.replicate 5 3)]⟩]

/-- A failure between two events costs none of them. -/
theorem readTimes_cuts_stretches_pause :
    AllSteady untilPause ∧ (∀ o ∈ pause, o.IsTransient) ∧ OnGrid 0 (stretches untilPause pause) ∧
    (readTimes 4 ⟨disturbed untilPause pause, none, false⟩).1
      = [.ok (List.replicate 89 1), .error (.failed readFailure), .ok (List.replicate 89 2),
          .error .closed] ∧
    ∃ i, eventAt (contentOf (disturbed untilPause pause)) i = .ok (List.replicate 89 2) := by
  have hfirst : AllSteady untilPause := by
    simp only [AllSteady, untilPause, List.forall_mem_cons]
    exact ⟨.bytes (by decide), .wait (.inl rfl), .bytes (by decide), List.forall_mem_nil _⟩
  have houtages : ∀ o ∈ pause, o.IsTransient := by
    simp only [pause, List.forall_mem_singleton]
    refine ⟨rfl, ?_⟩
    simp only [AllSteady, List.forall_mem_cons]
    exact ⟨.bytes (by decide), .wait (.inr rfl), .bytes (by decide), List.forall_mem_nil _⟩
  obtain ⟨hresults, -, hplaces, haligned⟩ := readTimes_cuts_stretches hfirst houtages
  have hgrid : OnGrid 0 (stretches untilPause pause) := hplaces.1 (by decide)
  have hread := (hresults 4).trans (show _ = [.ok (List.replicate 89 1),
    .error (.failed readFailure), .ok (List.replicate 89 2), .error .closed] from rfl)
  refine ⟨hfirst, houtages, hgrid, hread, haligned hgrid 4 _ ?_⟩
  rw [hread]
  simp

/-- An event, and 40 bytes of another one. -/
def untilTorn : List Delivery := [.bytes (List.replicate 89 1), .bytes (List.replicate 40 2)]

/-- The reader fails inside the event, and then delivers what is left of it and one more. -/
def torn : List Outage :=
  [⟨readFailure, [.bytes (List.replicate 49 2 ++ List.replicate 89 3)]⟩]

/-- The event that is read next lies across two events of the content. It is decoded
like any other. -/
theorem not_eventAt_torn :
    AllSteady untilTorn ∧ (∀ o ∈ torn, o.IsTransient) ∧
    .ok (List.replicate 49 2 ++ List.replicate 40 3)
      ∈ (readTimes 3 ⟨disturbed untilTorn torn, none, false⟩).1 ∧
    (∀ i, eventAt (contentOf (disturbed untilTorn torn)) i
      ≠ .ok (List.replicate 49 2 ++ List.replicate 40 3)) ∧
    ∃ r, receive (.ok (List.replicate 49 2 ++ List.replicate 40 3)) = .record r := by
  have hfirst : AllSteady untilTorn := by
    simp only [AllSteady, untilTorn, List.forall_mem_cons]
    exact ⟨.bytes (by decide), .bytes (by decide), List.forall_mem_nil _⟩
  have houtages : ∀ o ∈ torn, o.IsTransient := by
    simp only [torn, List.forall_mem_singleton]
    refine ⟨rfl, ?_⟩
    simp only [AllSteady, List.forall_mem_singleton]
    exact .bytes (by decide)
  have hevents : cut (contentOf untilTorn) = [List.replicate 89 1] ∧
      cut (contentOf [.bytes (List.replicate 49 2 ++ List.replicate 89 3)])
        = [List.replicate 49 2 ++ List.replicate 40 3] := by decide +kernel
  have hresults : resultsOf untilTorn torn
      = [.ok (List.replicate 89 1), .error (.failed readFailure),
          .ok (List.replicate 49 2 ++ List.replicate 40 3)] := by
    rw [resultsOf, torn, List.flatMap_singleton, hevents.1, hevents.2]
    rfl
  refine ⟨hfirst, houtages, ?_, fun i heq => ?_, _, rfl⟩
  · rw [readTimes_disturbed hfirst houtages, hresults]
    simp [-List.reduceReplicate]
  · have hblocks : ∀ i < (contentOf (disturbed untilTorn torn)).length / 89,
        ((contentOf (disturbed untilTorn torn)).drop (89 * i)).take 89
          ≠ List.replicate 49 2 ++ List.replicate 40 3 := by decide +kernel
    rw [eventAt] at heq
    split at heq
    · next hi => exact hblocks i hi (Except.ok.inj heq)
    · cases heq

end EventStream

end Flowmeter.Intake
