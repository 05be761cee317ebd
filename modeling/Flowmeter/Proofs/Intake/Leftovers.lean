-- SUMMARY: What is left in the counters when nobody is recording or reporting: the events counted while the last timer reported.
import Flowmeter.Proofs.Intake.Interleaving

/-!
# Leftovers

A timer takes the counts first and opens the gate after that. A call in between
finds the gate shut and starts no timer, though what it has counted was not
taken. So when all calls have returned and all timers have finished, the
counters hold what was counted while the last timer reported. That stays there
until another event is recorded.
-/

namespace Flowmeter.Intake

open Threads

/-! ## Counts -/

namespace Access

/-- The access leaves the gate shut and takes nothing. -/
def IsCounting (access : Access) : Prop :=
  access = .countedForwarded ∨ access = .countedMapFull ∨ access = .tried false

/-- The events that the accesses have counted, modulo what the counter can hold. -/
def forwardedIn (accesses : List Access) : UInt32 := .ofNat (accesses.count .countedForwarded)

/-- The same of the events that found the map full. -/
def mapFullIn (accesses : List Access) : UInt32 := .ofNat (accesses.count .countedMapFull)

theorem forwardedIn_append (accesses later : List Access) :
    forwardedIn (accesses ++ later) = forwardedIn accesses + forwardedIn later := by
  rw [forwardedIn, List.count_append, UInt32.ofNat_add]
  rfl

theorem mapFullIn_append (accesses later : List Access) :
    mapFullIn (accesses ++ later) = mapFullIn accesses + mapFullIn later := by
  rw [mapFullIn, List.count_append, UInt32.ofNat_add]
  rfl

theorem ofNat_eq_zero_iff (n : Nat) : UInt32.ofNat n = 0 ↔ UInt32.size ∣ n := by
  rw [← UInt32.toNat_inj, UInt32.toNat_ofNat', UInt32.toNat_zero]
  exact Nat.dvd_iff_mod_eq_zero.symm

end Access

open Access

namespace Window

theorem forwarded_recordMany (w : Window) (mapFull : Bool) (n : Nat) :
    (w.recordMany mapFull n).forwarded = w.forwarded + .ofNat n := by
  induction n generalizing w with
  | zero => exact (UInt32.add_zero _).symm
  | succ n ih =>
    have hone : (w.record mapFull).2.forwarded = w.forwarded + 1 := by cases mapFull <;> rfl
    rw [recordMany, ih, hone, Nat.add_comm n 1, UInt32.ofNat_add, UInt32.add_assoc]
    rfl

theorem forwarded_report (w : Window) : w.report.1.forwarded = w.forwarded := rfl

end Window

/-! ## What a timer leaves -/

/-- What was counted behind the back of a timer is in the counters. -/
def Timer.Leaves (accesses : List Access) (window : Window) : Timer → Prop
  | .sleeping => True
  | .takeMapFull forwarded =>
    ∃ before since, accesses = before ++ .tookForwarded forwarded :: since ∧
      (∀ a ∈ since, a.IsCounting) ∧ window.forwarded = forwardedIn since
  | .finish summary =>
    ∃ before between since,
      accesses = before ++ .tookForwarded summary.forwarded :: between
        ++ .tookMapFull summary.mapFull :: since ∧
      (∀ a ∈ between, a.IsCounting) ∧ (∀ a ∈ since, a.IsCounting) ∧
      window.forwarded = forwardedIn (between ++ since) ∧ window.mapFull = mapFullIn since

/-- One more access of a call that finds the gate shut. -/
theorem Timer.Leaves.snoc {accesses : List Access} {window window' : Window} {timer : Timer}
    (h : timer.Leaves accesses window) {a : Access} (ha : a.IsCounting)
    (hforwarded : window'.forwarded = window.forwarded + forwardedIn [a])
    (hmapFull : window'.mapFull = window.mapFull + mapFullIn [a]) :
    timer.Leaves (accesses ++ [a]) window' := by
  have hsnoc : ∀ {since : List Access}, (∀ a ∈ since, a.IsCounting) →
      ∀ b ∈ since ++ [a], b.IsCounting := by
    intro since hsince b hb
    rcases List.mem_append.1 hb with hb | hb
    · exact hsince b hb
    · obtain rfl := List.mem_singleton.1 hb
      exact ha
  cases timer with
  | sleeping => trivial
  | takeMapFull forwarded =>
    obtain ⟨before, since, rfl, hsince, hcount⟩ := h
    refine ⟨before, since ++ [a], List.append_assoc _ _ _, hsnoc hsince, ?_⟩
    rw [hforwarded, hcount, forwardedIn_append]
  | finish summary =>
    obtain ⟨before, between, since, rfl, hbetween, hsince, hcount, hfull⟩ := h
    refine ⟨before, between, since ++ [a], List.append_assoc _ _ _, hbetween, hsnoc hsince, ?_, ?_⟩
    · rw [hforwarded, hcount, ← forwardedIn_append, List.append_assoc]
    · rw [hmapFull, hfull, mapFullIn_append]

/-! ## What is left in the end -/

/-- Nothing was ever recorded, or the last timer has left in the counters what was
counted after it took them. -/
def Window.Settled (accesses : List Access) (window : Window) : Prop :=
  (accesses = [] ∧ window = .empty) ∨
  ∃ (before between since : List Access) (summary : Summary),
    accesses = before ++ .tookForwarded summary.forwarded :: between
      ++ .tookMapFull summary.mapFull :: since ++ [.finished summary] ∧
    (∀ a ∈ between, a.IsCounting) ∧ (∀ a ∈ since, a.IsCounting) ∧
    window = ⟨forwardedIn (between ++ since), mapFullIn since, false⟩

namespace Threads

variable {s s' : Threads}

/-- The gate is open unless a timer is there, and then there is one, with what it leaves. -/
inductive Gated (s : Threads) : Prop where
  | opened : s.timers = [] → s.window.active = false → Gated s
  | shut {timer : Timer} : s.timers = [timer] → s.window.active = true →
      timer.Leaves s.accesses s.window → Gated s

theorem gated_start : Gated start := .opened rfl rfl

/-- An access that counts leaves the gate as it is. -/
theorem Gated.count (h : Gated s) {window : Window} {calls : List Call} {a : Access}
    (ha : a.IsCounting) (hactive : window.active = s.window.active)
    (hforwarded : window.forwarded = s.window.forwarded + forwardedIn [a])
    (hmapFull : window.mapFull = s.window.mapFull + mapFullIn [a]) :
    Gated { s with window, calls, accesses := s.accesses ++ [a] } := by
  cases h with
  | opened htimers hopen => exact .opened htimers (hactive.trans hopen)
  | shut htimers hshut hleaves =>
    exact .shut htimers (hactive.trans hshut) (hleaves.snoc ha hforwarded hmapFull)

/-- The only timer is at the only place. -/
theorem Gated.timer_eq (h : Gated s) {i : Nat} {timer : Timer} (htimer : s.timers[i]? = some timer) :
    i = 0 ∧ s.timers = [timer] ∧ s.window.active = true ∧ timer.Leaves s.accesses s.window := by
  cases h with
  | opened htimers => simp [htimers] at htimer
  | shut htimers hshut hleaves =>
    rw [htimers] at htimer
    cases i with
    | zero =>
      obtain rfl := Option.some.inj htimer
      exact ⟨rfl, htimers, hshut, hleaves⟩
    | succ i => simp at htimer

theorem Step.gated (h : Step s s') (hs : Gated s) : Gated s' := by
  cases h with
  | call =>
    cases hs with
    | opened htimers hopen => exact .opened htimers hopen
    | shut htimers hshut hleaves => exact .shut htimers hshut hleaves
  | countForwarded => exact hs.count (.inl rfl) rfl rfl (UInt32.add_zero _).symm
  | countMapFull => exact hs.count (.inr (.inl rfl)) rfl (UInt32.add_zero _).symm rfl
  | findShut =>
    exact hs.count (.inr (.inr rfl)) rfl (UInt32.add_zero _).symm (UInt32.add_zero _).symm
  | begin _ hopen =>
    cases hs with
    | opened htimers =>
      have htimers' : s.timers ++ [.sleeping] = [.sleeping] := by rw [htimers, List.nil_append]
      exact .shut htimers' rfl trivial
    | shut _ hshut =>
      rw [hshut] at hopen
      cases hopen
  | takeForwarded htimer =>
    obtain ⟨rfl, htimers, hshut, -⟩ := hs.timer_eq htimer
    have htimers' : s.timers.set 0 (.takeMapFull s.window.forwarded)
        = [.takeMapFull s.window.forwarded] := by rw [htimers, List.set_cons_zero]
    exact .shut htimers' hshut ⟨_, [], rfl, by simp, rfl⟩
  | @takeMapFull i forwarded htimer =>
    obtain ⟨rfl, htimers, hshut, before, since, haccesses, hsince, hcount⟩ := hs.timer_eq htimer
    have htimers' : s.timers.set 0 (.finish ⟨forwarded, s.window.mapFull⟩)
        = [.finish ⟨forwarded, s.window.mapFull⟩] := by rw [htimers, List.set_cons_zero]
    refine .shut htimers' hshut ⟨before, since, [], ?_, hsince, by simp, ?_, rfl⟩
    · rw [haccesses]
    · rw [List.append_nil]
      exact hcount
  | finish htimer =>
    obtain ⟨rfl, htimers, -, -⟩ := hs.timer_eq htimer
    exact .opened (by rw [htimers]; rfl) rfl

theorem ne_nil_of_getElem? {α : Type} {l : List α} {i : Nat} {a : α} (h : l[i]? = some a) :
    l ≠ [] := by
  rintro rfl
  simp at h

/-- Threads become idle only when a timer finishes. -/
theorem Step.settled (h : Step s s') (hs : Gated s) (hcalls : s'.calls = []) (htimers : s'.timers = []) :
    s'.window.Settled s'.accesses := by
  cases h with
  | call => simp [Threads.call] at hcalls
  | countForwarded hcall => simp [ne_nil_of_getElem? hcall] at hcalls
  | countMapFull hcall => simp [ne_nil_of_getElem? hcall] at hcalls
  | findShut _ hshut =>
    cases hs with
    | opened _ hopen =>
      rw [hopen] at hshut
      cases hshut
    | shut hone =>
      rw [hone] at htimers
      cases htimers
  | begin => simp at htimers
  | takeForwarded htimer => simp [ne_nil_of_getElem? htimer] at htimers
  | takeMapFull htimer => simp [ne_nil_of_getElem? htimer] at htimers
  | @finish i summary htimer =>
    obtain ⟨-, -, -, before, between, since, haccesses, hbetween, hsince, hcount, hfull⟩ :=
      hs.timer_eq htimer
    refine .inr ⟨before, between, since, summary, ?_, hbetween, hsince, ?_⟩
    · rw [haccesses]
    · rw [← hcount, ← hfull]

/-! ## Idle threads -/

/-- However the accesses of records and timers come between each other, once all calls
have returned and all timers have finished the counters hold what was counted after
the last timer took them. So they are zero just if that was nothing, as far as 32 bits
can tell. -/
theorem settled_of_idle {acts : List Act} (hrun : start.run acts = some s) (hcalls : s.calls = [])
    (htimers : s.timers = []) :
    (s.accesses = [] ∧ s.window = .empty) ∨
    ∃ (before between since : List Access) (summary : Summary),
      s.accesses = before ++ .tookForwarded summary.forwarded :: between
        ++ .tookMapFull summary.mapFull :: since ++ [.finished summary] ∧
      (∀ a ∈ between, a.IsCounting) ∧ (∀ a ∈ since, a.IsCounting) ∧
      s.window = ⟨forwardedIn (between ++ since), mapFullIn since, false⟩ ∧
      (s.window.forwarded = 0 ↔ UInt32.size ∣ (between ++ since).count .countedForwarded) ∧
      (s.window.mapFull = 0 ↔ UInt32.size ∣ since.count .countedMapFull) := by
  have hkeeps : Gated s ∧ (s.calls = [] → s.timers = [] → s.window.Settled s.accesses) := by
    refine run_induction (P := fun s => Gated s ∧
      (s.calls = [] → s.timers = [] → s.window.Settled s.accesses)) hrun ?_ ?_
    · exact ⟨gated_start, fun _ _ => .inl ⟨rfl, rfl⟩⟩
    · intro s s' hstep ⟨hgated, _⟩
      exact ⟨hstep.gated hgated, hstep.settled hgated⟩
  rcases hkeeps.2 hcalls htimers with huntouched | hsettled
  · exact .inl huntouched
  · obtain ⟨before, between, since, summary, haccesses, hbetween, hsince, hwindow⟩ := hsettled
    refine .inr ⟨before, between, since, summary, haccesses, hbetween, hsince, hwindow, ?_, ?_⟩
    · rw [hwindow]
      exact ofNat_eq_zero_iff _
    · rw [hwindow]
      exact ofNat_eq_zero_iff _

/-- A second event is counted while the timer of the first reports. -/
def lateRecord : List Act :=
  [.call false, .advanceCall 0, .advanceCall 0, .advanceTimer 0, .call false, .advanceCall 0,
    .advanceCall 0, .advanceTimer 0, .advanceTimer 0]

/-- All is at rest then, and the second event is in no summary. -/
theorem settled_of_idle_lateRecord :
    ∃ s before between since summary, start.run lateRecord = some s ∧
      s.calls = [] ∧ s.timers = [] ∧
      s.accesses = before ++ .tookForwarded summary.forwarded :: between
        ++ .tookMapFull summary.mapFull :: since ++ [.finished summary] ∧
      s.window = ⟨forwardedIn (between ++ since), mapFullIn since, false⟩ ∧
      s.window = ⟨1, 0, false⟩ := by
  have hrun : start.run lateRecord = some _ := rfl
  rcases settled_of_idle hrun rfl rfl with ⟨hnone, -⟩ | hsettled
  · cases hnone
  · obtain ⟨before, between, since, summary, haccesses, -, -, hwindow, -⟩ := hsettled
    exact ⟨_, before, between, since, summary, hrun, rfl, rfl, haccesses, hwindow, rfl⟩

end Threads

/-- An event can be left in a counter though nobody is busy, and of more events than the
counter can hold a report takes the remainder only. -/
theorem Threads.not_settled_lateRecord :
    (∃ s, start.run lateRecord = some s ∧ s.calls = [] ∧ s.timers = [] ∧
      ¬ (s.window.forwarded = 0 ∧ s.window.mapFull = 0)) ∧
    (Window.empty.recordMany false 4294967297).report.1.forwarded = 1 := by
  refine ⟨⟨_, rfl, rfl, rfl, by decide⟩, ?_⟩
  rw [Window.forwarded_report, Window.forwarded_recordMany]
  decide

end Flowmeter.Intake
