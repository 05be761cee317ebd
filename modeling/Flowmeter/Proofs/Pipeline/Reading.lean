-- SUMMARY: In an undisturbed run the intake sends on every record that it reads, in order and once.
import Flowmeter.Proofs.Intake.Records
import Flowmeter.Proofs.Pipeline.Wiring

/-!
# Reading

While the intake runs, what it has sent and holds are the records among the
results it has taken from the source. When it ends, it has come to the end of
the source, and what arrives later does not count.
-/

namespace Flowmeter

namespace Pipeline

open Intake

variable {p q : Pipeline} {arrived : List (Except ReadError Bytes)} {sent : List RawRecord}

/-- The intake has sent the records it has read, but for one that it may hold. -/
structure Reads (p : Pipeline) (arrived : List (Except ReadError Bytes)) (sent : List RawRecord) :
    Prop where
  running : p.intake.hasEnded = false →
    ∃ consumed, arrived = consumed ++ p.source ∧ IsOpen consumed ∧
      recordsOf consumed = sent ++ p.intake.items
  ended : p.intake.hasEnded = true →
    recordsOf arrived = sent ∧ (p.sourceClosed = true ∨ ¬ IsOpen arrived)

namespace Reads

theorem of_running (hruns : p.intake.hasEnded = false)
    (h : ∃ consumed, arrived = consumed ++ p.source ∧ IsOpen consumed ∧
      recordsOf consumed = sent ++ p.intake.items) : Reads p arrived sent where
  running _ := h
  ended hended := by rw [hruns] at hended; cases hended

theorem of_ended (hended : p.intake.hasEnded = true) (hrecords : recordsOf arrived = sent)
    (hclosed : p.sourceClosed = true ∨ ¬ IsOpen arrived) : Reads p arrived sent where
  running hruns := by rw [hended] at hruns; cases hruns
  ended _ := ⟨hrecords, hclosed⟩

theorem start {setup : Setup} (hcomplete : setup.IsComplete) (now : Instant) :
    Reads (Pipeline.start setup now) [] [] := by
  have hready : (Pipeline.start setup now).intake = .ready := if_pos (hcomplete .intake)
  refine of_running (by rw [hready]; rfl) ⟨[], rfl, fun _ hx => absurd hx List.not_mem_nil, ?_⟩
  rw [hready]
  rfl

/-- The intake takes a result that does not close the source. -/
theorem consume (hp : Reads p arrived sent) (hready : p.intake = .ready)
    {result : Except ReadError Bytes} {source : List (Except ReadError Bytes)}
    (hsource : p.source = result :: source) (hresult : receive result ≠ .closed) :
    ∃ consumed, arrived = consumed ++ source ∧ IsOpen consumed ∧
      recordsOf consumed = sent ++ recordsOf [result] := by
  obtain ⟨consumed, harrived, hopen, hrecords⟩ := hp.running (by rw [hready]; rfl)
  refine ⟨consumed ++ [result], by simp [harrived, hsource], isOpen_snoc hopen hresult, ?_⟩
  rw [recordsOf_append hopen, hrecords, hready, Phase.items_ready, List.append_nil]

end Reads

theorem IntakeStep.reads {sentNow : List RawRecord} (h : IntakeStep p sentNow q) (hwired : p.Wired)
    (hp : Reads p arrived sent) : Reads q arrived (sent ++ sentNow) := by
  cases h with
  | finish hready _ hsource hclosed =>
    obtain ⟨consumed, harrived, -, hrecords⟩ := hp.running (by rw [hready]; rfl)
    refine .of_ended rfl ?_ (.inl hclosed)
    rw [harrived, hsource, List.append_nil, hrecords, hready]
    rfl
  | @readClosed result source hready _ hsource hresult =>
    obtain ⟨consumed, harrived, hopen, hrecords⟩ := hp.running (by rw [hready]; rfl)
    have hend : recordsOf (result :: source) = [] := by simp only [recordsOf, hresult]
    refine .of_ended rfl ?_ (.inr fun hall => ?_)
    · rw [harrived, hsource, recordsOf_append hopen, hrecords, hend, hready]
      simp
    · exact hall result (by simp [harrived, hsource]) hresult
  | readFailed hready _ hsource hresult =>
    obtain ⟨consumed, harrived, hopen, hrecords⟩ :=
      hp.consume hready hsource (by simp [hresult])
    refine .of_running (by rw [hready]; rfl) ⟨consumed, harrived, hopen, ?_⟩
    simp [hrecords, recordsOf, hresult, hready]
  | readMalformed hready _ hsource hresult =>
    obtain ⟨consumed, harrived, hopen, hrecords⟩ :=
      hp.consume hready hsource (by simp [hresult])
    refine .of_running (by rw [hready]; rfl) ⟨consumed, harrived, hopen, ?_⟩
    simp [hrecords, recordsOf, hresult, hready]
  | readRecord hready _ hsource hresult =>
    obtain ⟨consumed, harrived, hopen, hrecords⟩ :=
      hp.consume hready hsource (by simp [hresult])
    refine .of_running rfl ⟨consumed, harrived, hopen, ?_⟩
    simp [hrecords, recordsOf, hresult]
  | send hitems =>
    obtain ⟨consumed, harrived, hopen, hrecords⟩ := hp.running (Phase.hasEnded_of_items hitems)
    refine .of_running rfl ⟨consumed, harrived, hopen, ?_⟩
    rw [hrecords, hitems]
    exact (List.append_nil _).symm
  | refuse hitems hcut =>
    exact absurd hcut (hwired.raw.not_isCut (Phase.hasEnded_of_items hitems))

theorem WorldStep.reads {arrivedNow : List (Except ReadError Bytes)}
    (h : WorldStep p arrivedNow q) (hp : Reads p arrived sent) :
    Reads q (arrived ++ arrivedNow) sent := by
  cases h with
  | @arrive result hopens =>
    refine ⟨fun hruns => ?_, fun hended => ?_⟩
    · obtain ⟨consumed, harrived, hopen, hrecords⟩ := hp.running hruns
      exact ⟨consumed, by simp [harrived], hopen, hrecords⟩
    · obtain ⟨hrecords, hclosed | hnot⟩ := hp.ended hended
      · rw [hopens] at hclosed
        cases hclosed
      · refine ⟨by rw [recordsOf_append_of_not_isOpen hnot, hrecords], .inr fun hall => ?_⟩
        exact hnot fun x hx => hall x (List.mem_append_left _ hx)
  | closeSource =>
    rw [List.append_nil]
    exact ⟨hp.running, fun hended => ⟨(hp.ended hended).1, .inl rfl⟩⟩
  | requestFlush => rw [List.append_nil]; exact { hp with }
  | wait => rw [List.append_nil]; exact { hp with }
  | cancel => rw [List.append_nil]; exact { hp with }

theorem Step.reads {arrivedNow : List (Except ReadError Bytes)} {sentNow : List RawRecord}
    (h : Step p arrivedNow sentNow q) (hwired : p.Wired) (hq : q.Undisturbed)
    (hp : Reads p arrived sent) : Reads q (arrived ++ arrivedNow) (sent ++ sentNow) := by
  cases h with
  | intake h => rw [List.append_nil]; exact h.reads hwired hp
  | cache h => rw [List.append_nil, List.append_nil]; cases h <;> exact { hp with }
  | deduper h => rw [List.append_nil, List.append_nil]; cases h <;> exact { hp with }
  | decorator h => rw [List.append_nil, List.append_nil]; cases h <;> exact { hp with }
  | «export» h => rw [List.append_nil, List.append_nil]; cases h <;> exact { hp with }
  | quit hcancelled => exact (hq.not_quit hcancelled).elim
  | world h => rw [List.append_nil]; exact h.reads hp

/-- Nothing is sent that did not arrive before the end of the source. -/
theorem Reads.sent_prefix (hp : Reads p arrived sent) : sent <+: recordsOf arrived := by
  cases hended : p.intake.hasEnded with
  | true => exact ⟨[], by rw [(hp.ended hended).1, List.append_nil]⟩
  | false =>
    obtain ⟨consumed, rfl, hopen, hrecords⟩ := hp.running hended
    rw [recordsOf_append hopen, hrecords, List.append_assoc]
    exact List.prefix_append _ _

end Pipeline

end Flowmeter
