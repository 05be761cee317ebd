-- SUMMARY: Exports and the steps of the sending side of an uplink in any order, with the history of what they did.
import Flowmeter.Export.Uplink
import Flowmeter.Proofs.Pipeline.Channel

/-!
# Traffic over an uplink

Batches are exported while the sending side connects, takes batches from the
queue and sends them, and the network decides whether an attempt to connect or
to send succeeds. A run is any sequence of such acts. At some point nobody
exports any more, or the sending side is ended from outside, with whatever it
is at.

The history of a run is the list of what was done. The dispatch of an uplink
to a peer that reads everything is one of the runs.
-/

namespace Flowmeter.Export

/-- What was done, by an export or on the sending side. -/
inductive Deed where
  | accepted (batch : Batch)
  | rejected (batch : Batch) (line : Log.Line)
  | connected
  /-- An attempt to connect failed. -/
  | refused (line : Log.Line)
  /-- A batch was taken from the queue and given to the codec. -/
  | handed (batch : Batch)
  | sent (batch : Batch) (bytes : Bytes)
  | failed (batch : Batch) (line : Log.Line)
  /-- The sending side came to its end. -/
  | stopped
  /-- The sending side was ended from outside. -/
  | abandoned

/-- What is seen of a deed on the network and in the log. -/
def Deed.event? : Deed → Option Uplink.Event
  | .connected => some .connected
  | .refused line => some (.refused line)
  | .sent _ bytes => some (.wrote bytes)
  | .failed _ line => some (.failed line)
  | .accepted _ | .rejected _ _ | .handed _ | .stopped | .abandoned => none

abbrev History := List Deed

/-- An uplink and what was done with it, the last deed at the end. -/
structure Traffic where
  uplink : Uplink
  history : History

def connectError (address cause : String) : Log.Line :=
  ⟨.warn, "connection to " ++ address ++ " failed: " ++ cause⟩

def networkError (cause : String) : Log.Line := ⟨.warn, "write error: " ++ cause⟩

/-- The codec answers with an error, of the frame or of the network. -/
def SendFails (batch : Batch) (line : Log.Line) : Prop :=
  (∃ e, frame batch = .error e ∧ line = Uplink.writeError e) ∨
    ∃ bytes cause, frame batch = .ok bytes ∧ line = networkError cause

theorem Uplink.finish_of_sending {u : Uplink} {batch : Batch} (h : u.sending = .sending batch)
    (sent : Bool) :
    u.finish sent = some { u with sending := if sent then .connected else .disconnected } := by
  rw [finish, h]

namespace Traffic

open Uplink

def start : Traffic := { uplink := .empty, history := [] }

/-- The uplink as it is after a deed. -/
def note (s : Traffic) (uplink : Uplink) (deed : Deed) : Traffic where
  uplink := uplink
  history := s.history ++ [deed]

/-- Somebody exports a batch, while there is anybody who may. -/
def submit (s : Traffic) (batch : Batch) : Option Traffic :=
  if s.uplink.queue.closed then none
  else
    match s.uplink.submit batch with
    | (none, uplink) => some (s.note uplink (.accepted batch))
    | (some line, uplink) => some (s.note uplink (.rejected batch line))

def connect (s : Traffic) : Option Traffic :=
  s.uplink.connect.map fun uplink => s.note uplink .connected

/-- The peer does not take a connection. -/
def refuse (s : Traffic) (address cause : String) : Option Traffic :=
  match s.uplink.sending with
  | .disconnected => some (s.note s.uplink (.refused (connectError address cause)))
  | _ => none

def take (s : Traffic) : Option Traffic :=
  s.uplink.take.map fun uplink =>
    match uplink.sending with
    | .sending batch => s.note uplink (.handed batch)
    | _ => s.note uplink .stopped

/-- The batch on its way comes to its frame, and the frame to what the network makes of it. -/
def settle (s : Traffic) (network : Except String Unit) : Option Traffic :=
  match s.uplink.sending with
  | .sending batch =>
    match frame batch, network with
    | .error e, _ =>
      (s.uplink.finish false).map fun uplink => s.note uplink (.failed batch (writeError e))
    | .ok _, .error cause =>
      (s.uplink.finish false).map fun uplink => s.note uplink (.failed batch (networkError cause))
    | .ok bytes, .ok () =>
      (s.uplink.finish true).map fun uplink => s.note uplink (.sent batch bytes)
  | _ => none

/-- Nobody exports any more. -/
def close (s : Traffic) : Option Traffic :=
  if s.uplink.queue.closed then none else some { s with uplink := s.uplink.close }

def abandon (s : Traffic) : Option Traffic :=
  match s.uplink.sending with
  | .stopped => none
  | _ => some (s.note s.uplink.abandon .abandoned)

/-- What happens next. -/
inductive Act where
  | submit (batch : Batch)
  | connect
  | refuse (address cause : String)
  | take
  | settle (network : Except String Unit)
  | close
  | abandon

/-- An act with which the sending side gets on by itself. -/
def Act.IsDispatch : Act → Prop
  | .connect | .take | .settle _ => True
  | .submit _ | .refuse _ _ | .close | .abandon => False

/-- The traffic after an act, if it can happen. -/
def next (s : Traffic) : Act → Option Traffic
  | .submit batch => s.submit batch
  | .connect => s.connect
  | .refuse address cause => s.refuse address cause
  | .take => s.take
  | .settle network => s.settle network
  | .close => s.close
  | .abandon => s.abandon

/-- The traffic after all the acts, if they can happen in this order. -/
def run : Traffic → List Act → Option Traffic
  | s, [] => some s
  | s, act :: acts =>
    match s.next act with
    | none => none
    | some s => run s acts

/-! ## Steps -/

/-- How the sending side gets on. -/
inductive DispatchStep (s : Traffic) : Traffic → Prop where
  | connect : s.uplink.sending = .disconnected →
      DispatchStep s (s.note { s.uplink with sending := .connected } .connected)
  | hand {batch : Batch} {queue : List Batch} :
      s.uplink.sending = .connected → s.uplink.queue.queue = batch :: queue →
      DispatchStep s (s.note
        { queue := { s.uplink.queue with queue }, sending := .sending batch } (.handed batch))
  | stop : s.uplink.sending = .connected → s.uplink.queue.queue = [] →
      s.uplink.queue.closed = true →
      DispatchStep s (s.note { s.uplink with sending := .stopped } .stopped)
  | send {batch : Batch} {bytes : Bytes} :
      s.uplink.sending = .sending batch → frame batch = .ok bytes →
      DispatchStep s (s.note { s.uplink with sending := .connected } (.sent batch bytes))
  | fail {batch : Batch} {line : Log.Line} :
      s.uplink.sending = .sending batch → SendFails batch line →
      DispatchStep s (s.note { s.uplink with sending := .disconnected } (.failed batch line))

/-- What can happen next. -/
inductive Step (s : Traffic) : Traffic → Prop where
  | accept {batch : Batch} : s.uplink.queue.HasRoom →
      Step s (s.note { s.uplink with queue := s.uplink.queue.push batch } (.accepted batch))
  | rejectFull {batch : Batch} :
      s.uplink.queue.closed = false → s.uplink.queue.dropped = false →
      s.uplink.queue.capacity ≤ s.uplink.queue.queue.length →
      Step s (s.note s.uplink (.rejected batch (dropping "export queue full" batch)))
  | rejectStopped {batch : Batch} :
      s.uplink.queue.closed = false → s.uplink.queue.dropped = true →
      Step s (s.note s.uplink (.rejected batch (dropping "exporter stopped" batch)))
  | dispatch {s' : Traffic} : DispatchStep s s' → Step s s'
  | refuse {line : Log.Line} : s.uplink.sending = .disconnected →
      Step s (s.note s.uplink (.refused line))
  | close : s.uplink.queue.closed = false → Step s { s with uplink := s.uplink.close }
  | abandon : s.uplink.sending ≠ .stopped → Step s (s.note s.uplink.abandon .abandoned)

variable {s s' s'' : Traffic} {act : Act} {acts acts' : List Act}

/-- What becomes of a batch that is exported. -/
theorem submit_cases (hopen : s.uplink.queue.closed = false) (batch : Batch) :
    (s.uplink.queue.HasRoom ∧ s.submit batch
        = some (s.note { s.uplink with queue := s.uplink.queue.push batch } (.accepted batch))) ∨
    (s.uplink.queue.dropped = false ∧ s.uplink.queue.capacity ≤ s.uplink.queue.queue.length ∧
      s.submit batch
        = some (s.note s.uplink (.rejected batch (dropping "export queue full" batch)))) ∨
    (s.uplink.queue.dropped = true ∧ s.submit batch
        = some (s.note s.uplink (.rejected batch (dropping "exporter stopped" batch)))) := by
  have hclosed : ¬ s.uplink.queue.closed = true := by simp [hopen]
  rw [submit, if_neg hclosed, Uplink.submit]
  by_cases hdropped : s.uplink.queue.dropped = true
  · have hsend : s.uplink.queue.send batch = .refused :=
      Channel.send_eq_refused_iff.2 (.inr hdropped)
    exact .inr (.inr ⟨hdropped, by rw [hsend]⟩)
  · have hkept := Bool.eq_false_iff.2 hdropped
    by_cases hroom : s.uplink.queue.queue.length < s.uplink.queue.capacity
    · have hsend : s.uplink.queue.send batch = .accepted (s.uplink.queue.push batch) :=
        Channel.send_eq_accepted_iff.2 ⟨⟨hopen, hkept, hroom⟩, rfl⟩
      exact .inl ⟨⟨hopen, hkept, hroom⟩, by rw [hsend]⟩
    · have hsend : s.uplink.queue.send batch = .full := by
        simp [Channel.send, hopen, hkept, hroom]
      exact .inr (.inl ⟨hkept, Nat.not_lt.1 hroom, by rw [hsend]⟩)

theorem step_of_submit {batch : Batch} (h : s.submit batch = some s') : Step s s' := by
  have hopen : s.uplink.queue.closed = false := by
    cases hclosed : s.uplink.queue.closed with
    | false => rfl
    | true =>
      rw [submit, if_pos hclosed] at h
      cases h
  obtain ⟨hroom, hsubmit⟩ | ⟨hkept, hfull, hsubmit⟩ | ⟨hdropped, hsubmit⟩ :=
    submit_cases hopen batch
  · obtain rfl := Option.some.inj (h.symm.trans hsubmit)
    exact .accept hroom
  · obtain rfl := Option.some.inj (h.symm.trans hsubmit)
    exact .rejectFull hopen hkept hfull
  · obtain rfl := Option.some.inj (h.symm.trans hsubmit)
    exact .rejectStopped hopen hdropped

theorem step_of_connect (h : s.connect = some s') : DispatchStep s s' := by
  unfold connect Uplink.connect at h
  split at h
  · next hsending =>
    obtain rfl := Option.some.inj h
    exact .connect hsending
  · cases h

theorem step_of_take (h : s.take = some s') : DispatchStep s s' := by
  unfold take Uplink.take at h
  split at h
  · next batch queue hsending hreceive =>
    obtain ⟨rest, hqueue, rfl⟩ := Channel.receive?_eq_some_iff.1 hreceive
    obtain rfl := Option.some.inj h
    exact .hand hsending hqueue
  · next hsending hreceive =>
    split at h
    · next hclosed =>
      obtain rfl := Option.some.inj h
      exact .stop hsending (Channel.receive?_eq_none_iff.1 hreceive) hclosed
    · cases h
  · cases h

theorem step_of_settle {network : Except String Unit} (h : s.settle network = some s') :
    DispatchStep s s' := by
  unfold settle at h
  split at h
  · next batch hsending =>
    simp only [finish_of_sending hsending] at h
    split at h
    · next e hframe =>
      obtain rfl := Option.some.inj h
      exact .fail hsending (.inl ⟨e, hframe, rfl⟩)
    · next bytes cause hframe =>
      obtain rfl := Option.some.inj h
      exact .fail hsending (.inr ⟨bytes, cause, hframe, rfl⟩)
    · next bytes hframe =>
      obtain rfl := Option.some.inj h
      exact .send hsending hframe
  · cases h

/-- A batch fails if the network does, whatever its frame. -/
theorem exists_settle_error {batch : Batch} (hsending : s.uplink.sending = .sending batch)
    (cause : String) :
    ∃ line, s.settle (.error cause)
      = some (s.note { s.uplink with sending := .disconnected } (.failed batch line)) := by
  cases hframe : frame batch with
  | error e =>
    exact ⟨writeError e, by simp [settle, hsending, hframe, finish_of_sending hsending]⟩
  | ok bytes =>
    exact ⟨networkError cause, by simp [settle, hsending, hframe, finish_of_sending hsending]⟩

theorem dispatchStep_of_next (hact : act.IsDispatch) (h : s.next act = some s') :
    DispatchStep s s' := by
  cases act with
  | connect => exact step_of_connect h
  | take => exact step_of_take h
  | settle network => exact step_of_settle h
  | submit batch => exact hact.elim
  | refuse address cause => exact hact.elim
  | close => exact hact.elim
  | abandon => exact hact.elim

theorem step_of_next (h : s.next act = some s') : Step s s' := by
  cases act with
  | submit batch => exact step_of_submit h
  | connect => exact .dispatch (step_of_connect h)
  | take => exact .dispatch (step_of_take h)
  | settle network => exact .dispatch (step_of_settle h)
  | refuse address cause =>
    simp only [next, refuse] at h
    split at h
    · next hsending =>
      obtain rfl := Option.some.inj h
      exact .refuse hsending
    · cases h
  | close =>
    simp only [next, close] at h
    split at h
    · cases h
    · next hopen =>
      obtain rfl := Option.some.inj h
      exact .close (Bool.eq_false_iff.2 hopen)
  | abandon =>
    simp only [next, abandon] at h
    split at h
    · cases h
    · next hsending =>
      obtain rfl := Option.some.inj h
      exact .abandon hsending

/-! ## Runs -/

/-- What every step keeps, a run keeps. -/
theorem run_induction {P : Traffic → Prop} (h : s.run acts = some s') (hstart : P s)
    (hstep : ∀ s s', Step s s' → P s → P s') : P s' := by
  induction acts generalizing s with
  | nil =>
    obtain rfl := Option.some.inj h
    exact hstart
  | cons act acts ih =>
    rw [run] at h
    split at h
    · cases h
    · next s₁ hnext => exact ih h (hstep s s₁ (step_of_next hnext) hstart)

theorem run_append (h : s.run acts = some s') : s.run (acts ++ acts') = s'.run acts' := by
  induction acts generalizing s with
  | nil =>
    obtain rfl := Option.some.inj h
    rfl
  | cons act acts ih =>
    rw [run] at h
    rw [List.cons_append, run]
    split at h
    · cases h
    · exact ih h

/-! ## A peer that reads everything -/

/-- By itself, the sending side can do what is seen as `events`. -/
def CanShow (s : Traffic) (events : List Event) : Prop :=
  ∃ acts s' done, (∀ act ∈ acts, Act.IsDispatch act) ∧ s.run acts = some s' ∧
    s'.history = s.history ++ done ∧ done.filterMap Deed.event? = events

namespace CanShow

theorem nothing (s : Traffic) : s.CanShow [] :=
  ⟨[], s, [], List.forall_mem_nil _, rfl, (List.append_nil _).symm, rfl⟩

theorem act_first {uplink : Uplink} {deed : Deed} {events : List Event}
    (hnext : s.next act = some (s.note uplink deed)) (hact : act.IsDispatch)
    (hlater : (s.note uplink deed).CanShow events) :
    s.CanShow (deed.event?.toList ++ events) := by
  obtain ⟨acts, s', done, hacts, hrun, hdone, hevents⟩ := hlater
  refine ⟨act :: acts, s', deed :: done, List.forall_mem_cons.2 ⟨hact, hacts⟩, ?_, ?_, ?_⟩
  · rw [run, hnext]
    exact hrun
  · rw [hdone, note, List.append_assoc]
    rfl
  · rw [← hevents, List.filterMap_cons]
    cases deed.event? <;> rfl

end CanShow

/-- The dispatch of an uplink is what its sending side does in some run. -/
theorem canShow_dispatch (steps : Nat) (s : Traffic) : s.CanShow (dispatch steps s.uplink) := by
  induction steps generalizing s with
  | zero => exact .nothing s
  | succ steps ih =>
    rw [dispatch]
    cases hsending : s.uplink.sending with
    | stopped => exact .nothing s
    | disconnected =>
      have hconnect : s.uplink.connect = some { s.uplink with sending := .connected } := by
        rw [Uplink.connect, hsending]
      have hnext : s.next .connect
          = some (s.note { s.uplink with sending := .connected } .connected) := by
        rw [next, connect, hconnect]
        rfl
      simp only [hconnect]
      exact .act_first hnext trivial (ih _)
    | connected =>
      cases htake : s.uplink.take with
      | none => exact .nothing s
      | some uplink =>
        cases hafter : uplink.sending with
        | sending batch =>
          have hnext : s.next .take = some (s.note uplink (.handed batch)) := by
            simp [next, take, htake, hafter]
          exact .act_first hnext trivial (ih _)
        | disconnected | connected | stopped =>
          have hnext : s.next .take = some (s.note uplink .stopped) := by
            simp [next, take, htake, hafter]
          exact .act_first hnext trivial (ih _)
    | sending batch =>
      simp only [finish_of_sending hsending]
      cases hframe : frame batch with
      | error e =>
        have hnext : s.next (.settle (.ok ())) = some (s.note
            { s.uplink with sending := .disconnected } (.failed batch (writeError e))) := by
          simp [next, settle, hsending, hframe, finish_of_sending hsending]
        exact .act_first hnext trivial (ih _)
      | ok bytes =>
        have hnext : s.next (.settle (.ok ())) = some (s.note
            { s.uplink with sending := .connected } (.sent batch bytes)) := by
          simp [next, settle, hsending, hframe, finish_of_sending hsending]
        exact .act_first hnext trivial (ih _)

end Traffic

end Flowmeter.Export
