-- SUMMARY: The events of a stream are its content cut into pieces of one size, however the content is delivered.
import Flowmeter.Intake.EventStream

/-!
# Cutting streams

A reading turns over the deliveries one by one until its event is complete. How
many turns it takes is up to the reader; what comes out of them is not. Of the
content that is delivered, each reading takes as much as an event holds off the
front and leaves the rest for the next one, until less than an event is left.
That is lost when the data end, or when the stream is closed on the reading.
-/

namespace Flowmeter.Intake

/-! ## Deliveries of content -/

namespace Delivery

/-- The delivery is of bytes, or says that they are yet to come. -/
inductive IsSteady : Delivery → Prop where
  | bytes {piece : Bytes} (hpiece : piece ≠ []) : IsSteady (.bytes piece)
  | wait {f : Failure} (hwait : f.kind = .wouldBlock ∨ f.kind = .interrupted) :
      IsSteady (.failure f)

def content : Delivery → Bytes
  | .bytes piece => piece
  | .failure _ => []
  | .close => []

end Delivery

/-- The bytes of all deliveries together. -/
def contentOf (deliveries : List Delivery) : Bytes := deliveries.flatMap Delivery.content

/-- A piece that arrives goes behind what is there. -/
theorem append_contentOf_bytes (event piece : Bytes) (later : List Delivery) :
    event ++ contentOf (.bytes piece :: later) = event ++ piece ++ contentOf later :=
  (List.append_assoc _ _ _).symm

def AllSteady (deliveries : List Delivery) : Prop := ∀ d ∈ deliveries, d.IsSteady

theorem allSteady_cons {d : Delivery} {later : List Delivery} :
    AllSteady (d :: later) ↔ d.IsSteady ∧ AllSteady later := List.forall_mem_cons

/-- The event in place `i` of the content, counted from zero, or the end of the stream. -/
def eventAt (content : Bytes) (i : Nat) : Except ReadError Bytes :=
  if i < content.length / 89 then .ok ((content.drop (89 * i)).take 89) else .error .closed

theorem eventAt_zero {content : Bytes} (h : 89 ≤ content.length) :
    eventAt content 0 = .ok (content.take 89) := by
  have hpos : 0 < content.length / 89 := Nat.div_pos h (by decide)
  rw [eventAt, if_pos hpos, Nat.mul_zero, List.drop_zero]

theorem eventAt_succ {content : Bytes} (h : 89 ≤ content.length) (i : Nat) :
    eventAt content (i + 1) = eventAt (content.drop 89) i := by
  have hcount : (content.drop 89).length / 89 = content.length / 89 - 1 := by
    rw [List.length_drop]
    omega
  have hpos : 0 < content.length / 89 := Nat.div_pos h (by decide)
  have hplace : i + 1 < content.length / 89 ↔ i < content.length / 89 - 1 := by omega
  simp only [eventAt, hcount, hplace, List.drop_drop, Nat.mul_add, Nat.mul_one, Nat.add_comm 89]

theorem eventAt_of_short {content : Bytes} (h : content.length < 89) (i : Nat) :
    eventAt content i = .error .closed := by
  rw [eventAt, Nat.div_eq_of_lt h, if_neg (Nat.not_lt_zero i)]

/-! ## One reading -/

namespace EventStream

variable {ending : Option Failure} {event : Bytes} {later : List Delivery}

theorem collect_closed (ending : Option Failure) (deliveries : List Delivery) (event : Bytes) :
    collect ending deliveries true event = (.error .closed, ⟨deliveries, ending, true⟩) := by
  cases deliveries <;> rfl

theorem collect_wait {f : Failure} (hwait : f.kind = .wouldBlock ∨ f.kind = .interrupted) :
    collect ending (.failure f :: later) false event = collect ending later false event := by
  rcases hwait with h | h
  · simp only [collect, h]
  · simp only [collect, h]

theorem collect_short {piece : Bytes} (hpiece : piece ≠ [])
    (hshort : (event ++ piece).length < 89) :
    collect ending (.bytes piece :: later) false event
      = collect ending later false (event ++ piece) := by
  have hmissing : piece.length < RawRecord.wireSize - event.length := by
    rw [List.length_append] at hshort
    change piece.length < 89 - event.length
    omega
  simp only [collect, if_neg hpiece, if_pos hmissing]

/-- What a piece holds beyond the event comes first in the next reading. -/
theorem collect_enough (ending : Option Failure) (later : List Delivery) {piece : Bytes}
    (hpiece : piece ≠ []) (hevent : event.length < 89)
    (henough : 89 ≤ (event ++ piece).length) :
    ∃ rest, AllSteady rest ∧ contentOf rest = (event ++ piece).drop 89 ∧
      collect ending (.bytes piece :: later) false event
        = (.ok ((event ++ piece).take 89), ⟨rest ++ later, ending, false⟩) := by
  have hmissing : ¬ piece.length < RawRecord.wireSize - event.length := by
    rw [List.length_append] at henough
    change ¬ piece.length < 89 - event.length
    omega
  have htake : (event ++ piece).take 89 = event ++ piece.take (RawRecord.wireSize - event.length) := by
    rw [List.take_append, List.take_of_length_le (Nat.le_of_lt hevent)]
    rfl
  have hdrop : (event ++ piece).drop 89 = piece.drop (RawRecord.wireSize - event.length) := by
    rw [List.drop_append, List.drop_of_length_le (Nat.le_of_lt hevent)]
    rfl
  rw [htake, hdrop]
  simp only [collect, if_neg hpiece, if_neg hmissing]
  by_cases hrest : piece.drop (RawRecord.wireSize - event.length) = []
  · refine ⟨[], ?_, ?_, ?_⟩
    · intro d hd
      cases hd
    · exact hrest.symm
    · rw [if_pos hrest]
      rfl
  · refine ⟨[.bytes (piece.drop (RawRecord.wireSize - event.length))], ?_, ?_, ?_⟩
    · intro d hd
      obtain rfl := List.mem_singleton.1 hd
      exact .bytes hrest
    · exact List.append_nil _
    · rw [if_neg hrest]
      rfl

variable {deliveries : List Delivery}

/-- While the event is not complete, the reading goes on to what comes next. -/
theorem collect_pending (hsteady : AllSteady deliveries)
    (hshort : (event ++ contentOf deliveries).length < 89) :
    collect ending (deliveries ++ later) false event
      = collect ending later false (event ++ contentOf deliveries) := by
  induction deliveries generalizing event with
  | nil => rw [List.nil_append, contentOf, List.flatMap_nil, List.append_nil]
  | cons d deliveries ih =>
    obtain ⟨hd, hlater⟩ := allSteady_cons.1 hsteady
    rw [List.cons_append]
    cases hd with
    | @bytes piece hpiece =>
      rw [append_contentOf_bytes] at hshort ⊢
      have hpieceShort : (event ++ piece).length < 89 := by
        rw [List.length_append] at hshort
        exact Nat.lt_of_le_of_lt (Nat.le_add_right _ _) hshort
      rw [collect_short hpiece hpieceShort, ih hlater hshort]
    | @wait f hwait =>
      rw [collect_wait hwait]
      exact ih hlater hshort

/-- When there is enough, the event is complete, and what it does not take is left. -/
theorem collect_complete (hsteady : AllSteady deliveries) (hevent : event.length < 89)
    (henough : 89 ≤ (event ++ contentOf deliveries).length) :
    ∃ rest, AllSteady rest ∧ contentOf rest = (event ++ contentOf deliveries).drop 89 ∧
      collect ending (deliveries ++ later) false event
        = (.ok ((event ++ contentOf deliveries).take 89), ⟨rest ++ later, ending, false⟩) := by
  induction deliveries generalizing event with
  | nil =>
    rw [contentOf, List.flatMap_nil, List.append_nil] at henough
    exact absurd hevent (Nat.not_lt.2 henough)
  | cons d deliveries ih =>
    obtain ⟨hd, hlater⟩ := allSteady_cons.1 hsteady
    rw [List.cons_append]
    cases hd with
    | @bytes piece hpiece =>
      rw [append_contentOf_bytes] at henough ⊢
      by_cases hshort : (event ++ piece).length < 89
      · rw [collect_short hpiece hshort]
        exact ih hlater hshort henough
      · have hlong : 89 ≤ (event ++ piece).length := Nat.not_lt.1 hshort
        obtain ⟨rest, hrest, hrestContent, hcollect⟩ :=
          collect_enough ending (deliveries ++ later) hpiece hevent hlong
        refine ⟨rest ++ deliveries, ?_, ?_, ?_⟩
        · intro d hd
          rcases List.mem_append.1 hd with hd | hd
          · exact hrest d hd
          · exact hlater d hd
        · rw [List.drop_append_of_le_length hlong, ← hrestContent, contentOf, List.flatMap_append]
          rfl
        · rw [hcollect, List.take_append_of_le_length hlong, List.append_assoc]
    | @wait f hwait =>
      rw [collect_wait hwait]
      exact ih hlater hevent henough

theorem read_pending (hsteady : AllSteady deliveries) (hshort : (contentOf deliveries).length < 89) :
    read ⟨deliveries ++ later, ending, false⟩
      = collect ending later false (contentOf deliveries) := by
  have hempty : (([] : Bytes) ++ contentOf deliveries).length < 89 := hshort
  exact collect_pending hsteady hempty

theorem read_complete (ending : Option Failure) (later : List Delivery)
    (hsteady : AllSteady deliveries) (henough : 89 ≤ (contentOf deliveries).length) :
    ∃ rest, AllSteady rest ∧ contentOf rest = (contentOf deliveries).drop 89 ∧
      read ⟨deliveries ++ later, ending, false⟩
        = (.ok ((contentOf deliveries).take 89), ⟨rest ++ later, ending, false⟩) := by
  have hempty : ([] : Bytes).length < 89 := by decide
  exact collect_complete hsteady hempty henough

/-! ## Successive readings -/

/-- Reads `count` times in turn. -/
def readTimes : Nat → EventStream → List (Except ReadError Bytes) × EventStream
  | 0, s => ([], s)
  | count + 1, s =>
    let (result, s) := s.read
    let (results, s) := readTimes count s
    (result :: results, s)

theorem readTimes_succ_of_read {s s' : EventStream} {result : Except ReadError Bytes}
    (h : s.read = (result, s')) (count : Nat) :
    s.readTimes (count + 1) = (result :: (s'.readTimes count).1, (s'.readTimes count).2) := by
  simp only [readTimes, h]

/-- The stream is at its end, and stays there. -/
def IsOver (s : EventStream) : Prop := s.read = (.error .closed, s)

theorem IsOver.readTimes {s : EventStream} (h : s.IsOver) (count : Nat) :
    s.readTimes count = (List.replicate count (.error .closed), s) := by
  induction count with
  | zero => rfl
  | succ count ih => rw [readTimes_succ_of_read h, ih, List.replicate_succ]

theorem isOver_close (s : EventStream) : s.close.IsOver := collect_closed _ _ _

/-- Whatever puts an end to the readings, they have cut the content that came before it. -/
theorem readTimes_of_ends {s' : EventStream}
    (hends : ∀ event, collect ending later false event = (.error .closed, s')) (hover : s'.IsOver)
    (hsteady : AllSteady deliveries) (count : Nat) :
    (readTimes count ⟨deliveries ++ later, ending, false⟩).1
        = (List.range count).map (eventAt (contentOf deliveries)) ∧
      ((contentOf deliveries).length / 89 < count →
        (readTimes count ⟨deliveries ++ later, ending, false⟩).2 = s') := by
  induction count generalizing deliveries with
  | zero => exact ⟨rfl, fun h => absurd h (Nat.not_lt_zero _)⟩
  | succ count ih =>
    by_cases hlong : 89 ≤ (contentOf deliveries).length
    · obtain ⟨rest, hrest, hcontent, hread⟩ := read_complete ending later hsteady hlong
      obtain ⟨hresults, hlast⟩ := ih hrest
      rw [readTimes_succ_of_read hread]
      constructor
      · rw [List.range_succ_eq_map, List.map_cons, eventAt_zero hlong, List.map_map, hresults,
          hcontent]
        exact congrArg (List.cons _) (List.map_congr_left fun i _ => (eventAt_succ hlong i).symm)
      · intro hcount
        refine hlast ?_
        rw [hcontent, List.length_drop]
        omega
    · have hshort : (contentOf deliveries).length < 89 := Nat.not_le.1 hlong
      have hread : read ⟨deliveries ++ later, ending, false⟩ = (.error .closed, s') :=
        (read_pending hsteady hshort).trans (hends _)
      rw [readTimes_succ_of_read hread, hover.readTimes]
      constructor
      · have hall : ∀ i ∈ List.range (count + 1),
            eventAt (contentOf deliveries) i = .error .closed := fun i _ => eventAt_of_short hshort i
        rw [List.map_congr_left hall, List.map_const', List.length_range, List.replicate_succ]
      · intro _
        rfl

theorem isOver_ended : IsOver ⟨[], none, false⟩ := rfl

/-- Data that are delivered piece by piece, with any delays, are read as the
consecutive blocks of 89 bytes that they hold, and then the stream is closed; a
last block that is not complete is never read. If the stream is closed meanwhile,
the same holds of what was delivered before: the reading that is going on ends
without taking anything more. From then on every reading finds it closed. -/
theorem readTimes_cuts_content (hsteady : AllSteady deliveries) :
    (∀ count, (readTimes count ⟨deliveries, none, false⟩).1
      = (List.range count).map (eventAt (contentOf deliveries))) ∧
    (∀ ending later count,
      (readTimes count ⟨deliveries ++ .close :: later, ending, false⟩).1
        = (List.range count).map (eventAt (contentOf deliveries)) ∧
      ((contentOf deliveries).length / 89 < count →
        (readTimes count ⟨deliveries ++ .close :: later, ending, false⟩).2
          = ⟨later, ending, true⟩)) ∧
    (∀ (s : EventStream) count,
      s.close.readTimes count = (List.replicate count (.error .closed), s.close)) := by
  refine ⟨fun count => ?_, fun ending later count => ?_, fun s count => ?_⟩
  · have hends : ∀ event, collect none [] false event = (.error .closed, ⟨[], none, false⟩) :=
      fun _ => rfl
    have hresults := (readTimes_of_ends hends isOver_ended hsteady count).1
    rwa [List.append_nil] at hresults
  · have hends : ∀ event, collect ending (.close :: later) false event
        = (.error .closed, ⟨later, ending, true⟩) := fun event => collect_closed ending later event
    exact readTimes_of_ends hends (collect_closed ending later []) hsteady count
  · exact (isOver_close s).readTimes count

/-- Two events and a part of a third one, cut elsewhere and delivered with delays. -/
def stutter : List Delivery :=
  [.bytes (List.replicate 40 1), .failure ⟨.wouldBlock, ""⟩, .bytes (List.replicate 60 2),
    .failure ⟨.interrupted, ""⟩, .failure ⟨.wouldBlock, ""⟩, .bytes (List.replicate 100 3)]

/-- The stream is closed with 22 bytes of the third event there, and nothing more is taken. -/
theorem readTimes_cuts_content_stutter :
    AllSteady stutter ∧
    readTimes 3 ⟨stutter ++ [.close, .bytes (List.replicate 89 4)], none, false⟩
      = ([.ok (List.replicate 40 1 ++ List.replicate 49 2),
          .ok (List.replicate 11 2 ++ List.replicate 78 3), .error .closed],
        ⟨[.bytes (List.replicate 89 4)], none, true⟩) := by
  have hsteady : AllSteady stutter := by
    simp only [AllSteady, stutter, List.forall_mem_cons]
    exact ⟨.bytes (by simp), .wait (.inl rfl), .bytes (by simp), .wait (.inr rfl), .wait (.inl rfl),
      .bytes (by simp), List.forall_mem_nil _⟩
  have hcontent : contentOf stutter
      = List.replicate 40 1 ++ (List.replicate 60 2 ++ List.replicate 100 3) := by
    simp [contentOf, stutter, Delivery.content]
  obtain ⟨hresults, hlast⟩ :=
    (readTimes_cuts_content hsteady).2.1 none [.bytes (List.replicate 89 4)] 3
  rw [hcontent] at hresults hlast
  refine ⟨hsteady, Prod.ext (hresults.trans ?_) (hlast (by simp [-List.reduceReplicate]))⟩
  simp [-List.reduceReplicate, eventAt, List.range_succ, List.take_append, List.drop_append]

end EventStream

end Flowmeter.Intake
