-- SUMMARY: Batches are handed to the codec once and in the order in which they were accepted, and a connection loses at most the one it fails with.
import Flowmeter.Proofs.Export.Traffic
import Flowmeter.Proofs.Flow.Samples
import Mathlib.Data.List.Infix

/-!
# Handing over

What the history of an uplink looks like, whatever came between what. The
queue holds the batches that were accepted and not handed to the codec yet.
The sending side hands over one batch at a time, the one that was accepted
first, and only over a connection. A batch is given up when its own sending
fails, which ends the connection with it; so a connection loses one batch at
most. Whoever exports is answered at once, and turned away only for want of
room or of a sending side.

Two batches may be equal. They are told apart by their places in the history.
-/

namespace Flowmeter.Export

/-! ## Reading a history -/

/-- The batch that was put in the queue. -/
def Deed.accepted? : Deed → Option Batch
  | .accepted batch => some batch
  | _ => none

/-- The batch that was given to the codec. -/
def Deed.handed? : Deed → Option Batch
  | .handed batch => some batch
  | _ => none

/-- The batch whose sending has succeeded or failed. -/
def Deed.settled? : Deed → Option Batch
  | .sent batch _ | .failed batch _ => some batch
  | _ => none

/-- Whether there is a connection after a deed, given whether there was one before. -/
def Deed.upAfter (up : Bool) : Deed → Bool
  | .connected => true
  | .failed _ _ | .stopped | .abandoned => false
  | .accepted _ | .rejected _ _ | .refused _ | .handed _ | .sent _ _ => up

namespace History

def accepted (ds : History) : List Batch := ds.filterMap Deed.accepted?

def handed (ds : History) : List Batch := ds.filterMap Deed.handed?

def settled (ds : History) : List Batch := ds.filterMap Deed.settled?

/-- The batches that were accepted and not handed over. -/
def waiting (ds : History) : List Batch := (accepted ds).drop (handed ds).length

/-- Whether the sending side is connected. -/
def isUp (ds : History) : Bool := ds.foldl Deed.upAfter false

/-- The sending side is gone. -/
def HasEnded (ds : History) : Prop := .stopped ∈ ds ∨ .abandoned ∈ ds

variable {ds ds' : History} {deed : Deed}

@[simp] theorem accepted_concat :
    accepted (ds ++ [deed]) = accepted ds ++ deed.accepted?.toList := by
  rw [accepted, List.filterMap_append, List.filterMap_cons]
  cases deed.accepted? <;> rfl

@[simp] theorem handed_concat : handed (ds ++ [deed]) = handed ds ++ deed.handed?.toList := by
  rw [handed, List.filterMap_append, List.filterMap_cons]
  cases deed.handed? <;> rfl

@[simp] theorem settled_concat :
    settled (ds ++ [deed]) = settled ds ++ deed.settled?.toList := by
  rw [settled, List.filterMap_append, List.filterMap_cons]
  cases deed.settled? <;> rfl

@[simp] theorem isUp_concat : isUp (ds ++ [deed]) = deed.upAfter (isUp ds) := List.foldl_concat ..

@[simp] theorem hasEnded_concat :
    HasEnded (ds ++ [deed]) ↔ HasEnded ds ∨ deed = .stopped ∨ deed = .abandoned := by
  simp only [HasEnded, List.mem_append, List.mem_singleton, eq_comm (a := deed)]
  tauto

theorem waiting_eq {queue : List Batch} (h : accepted ds = handed ds ++ queue) :
    waiting ds = queue := by
  rw [waiting, h, List.drop_left]

/-- What waits only changes when a batch is accepted or handed over. -/
theorem waiting_concat (haccepted : deed.accepted? = none) (hhanded : deed.handed? = none) :
    waiting (ds ++ [deed]) = waiting ds := by
  simp [waiting, haccepted, hhanded]

theorem accepted_eq_concat (haccepted : deed.accepted? = none) (hhanded : deed.handed? = none)
    (h : accepted ds = handed ds ++ waiting ds) :
    accepted (ds ++ [deed]) = handed (ds ++ [deed]) ++ waiting (ds ++ [deed]) := by
  rw [waiting_concat haccepted hhanded, accepted_concat, handed_concat, haccepted, hhanded]
  simpa using h

/-- Where there is a connection after there was none, one was made. -/
theorem connected_mem_of_isUp (hbefore : isUp ds = false) (hafter : isUp (ds ++ ds') = true) :
    .connected ∈ ds' := by
  have hfold : ds'.foldl Deed.upAfter false = true := by
    rw [← hafter, ← hbefore]
    exact List.foldl_append.symm
  clear hbefore hafter
  induction ds' with
  | nil => cases hfold
  | cons deed ds' ih =>
    cases deed with
    | connected => exact List.mem_cons_self
    | accepted _ | rejected _ _ | refused _ | handed _ | sent _ _ | failed _ _ | stopped
    | abandoned => exact List.mem_cons_of_mem _ (ih hfold)

/-- What is so for each deed and the history before it stays so with one more deed. -/
theorem forall_split_concat {P : History → Deed → Prop}
    (h : ∀ before deed after, ds = before ++ deed :: after → P before deed) (hlast : P ds deed) :
    ∀ before deed' after, ds ++ [deed] = before ++ deed' :: after → P before deed' := by
  intro before deed' after hsplit
  obtain rfl | ⟨after, last, rfl⟩ := List.eq_nil_or_concat after
  · obtain ⟨rfl, hdeed⟩ := List.append_inj' hsplit rfl
    obtain rfl := List.singleton_inj.1 hdeed
    exact hlast
  · rw [List.concat_eq_append, ← List.cons_append, ← List.append_assoc] at hsplit
    exact h before deed' after (List.append_inj_left' hsplit rfl)

end History

open History Uplink

/-! ## The queue -/

/-- The queue is what the history makes it. -/
structure Holds (c : Channel Batch) (ds : History) : Prop where
  capacity_eq : c.capacity = capacity
  accepted_eq : accepted ds = handed ds ++ waiting ds
  length_le : (waiting ds).length ≤ capacity
  queue_eq : .abandoned ∉ ds → c.queue = waiting ds
  dropped_iff : c.dropped = true ↔ .abandoned ∈ ds
  drained : .stopped ∈ ds → c.closed = true ∧ waiting ds = []

namespace Holds

variable {c : Channel Batch} {ds : History} {deed : Deed} {batch : Batch} {queue : List Batch}

theorem empty : Holds (.empty capacity) [] where
  capacity_eq := rfl
  accepted_eq := rfl
  length_le := Nat.zero_le _
  queue_eq _ := rfl
  dropped_iff := by simp [Channel.empty]
  drained h := by cases h

/-- A queue with a receiver holds what waits. -/
theorem queue_eq_of_dropped (h : Holds c ds) (hkept : c.dropped = false) : c.queue = waiting ds :=
  h.queue_eq fun hmem => by simp [h.dropped_iff.2 hmem] at hkept

theorem accept (h : Holds c ds) (hroom : c.HasRoom) :
    Holds (c.push batch) (ds ++ [.accepted batch]) := by
  obtain ⟨hopen, hkept, hlength⟩ := hroom
  have hqueue := h.queue_eq_of_dropped hkept
  have haccepted : accepted (ds ++ [.accepted batch])
      = handed (ds ++ [.accepted batch]) ++ (waiting ds ++ [batch]) := by
    simp [h.accepted_eq, Deed.accepted?, Deed.handed?]
  have hwaiting := waiting_eq haccepted
  exact {
    capacity_eq := h.capacity_eq
    accepted_eq := hwaiting ▸ haccepted
    length_le := by
      rw [hwaiting, List.length_append, ← hqueue, ← h.capacity_eq]
      exact hlength
    queue_eq _ := by
      rw [hwaiting, ← hqueue]
      rfl
    dropped_iff := by simpa [Channel.push] using h.dropped_iff
    drained hmem := by
      have hclosed := (h.drained (by simpa using hmem)).1
      rw [hopen] at hclosed
      cases hclosed }

/-- A deed that neither fills nor empties the queue, while the sending side goes on. -/
theorem pass (h : Holds c ds) (haccepted : deed.accepted? = none) (hhanded : deed.handed? = none)
    (hstopped : deed ≠ .stopped) (habandoned : deed ≠ .abandoned) : Holds c (ds ++ [deed]) := by
  have hwaiting : waiting (ds ++ [deed]) = waiting ds := waiting_concat haccepted hhanded
  exact {
    capacity_eq := h.capacity_eq
    accepted_eq := accepted_eq_concat haccepted hhanded h.accepted_eq
    length_le := hwaiting ▸ h.length_le
    queue_eq hmem := by
      rw [hwaiting]
      exact h.queue_eq fun hbefore => hmem (List.mem_append_left _ hbefore)
    dropped_iff := by simpa [habandoned.symm] using h.dropped_iff
    drained hmem := by
      rw [hwaiting]
      exact h.drained (by simpa [hstopped.symm] using hmem) }

theorem hand (h : Holds c ds) (hgoing : ¬ HasEnded ds) (hqueue : c.queue = batch :: queue) :
    Holds { c with queue } (ds ++ [.handed batch]) := by
  have hbefore : waiting ds = batch :: queue := by
    rw [← hqueue, h.queue_eq fun hmem => hgoing (.inr hmem)]
  have haccepted : accepted (ds ++ [.handed batch]) = handed (ds ++ [.handed batch]) ++ queue := by
    simp [h.accepted_eq, hbefore, Deed.accepted?, Deed.handed?]
  have hwaiting := waiting_eq haccepted
  exact {
    capacity_eq := h.capacity_eq
    accepted_eq := hwaiting ▸ haccepted
    length_le := by
      have hlength := h.length_le
      rw [hbefore] at hlength
      rw [hwaiting]
      exact Nat.le_of_succ_le hlength
    queue_eq _ := hwaiting.symm
    dropped_iff := by simpa using h.dropped_iff
    drained hmem := absurd (.inl (by simpa using hmem)) hgoing }

theorem stop (h : Holds c ds) (hgoing : ¬ HasEnded ds) (hclosed : c.closed = true)
    (hqueue : c.queue = []) : Holds c (ds ++ [.stopped]) := by
  have hbefore : waiting ds = [] := by
    rw [← h.queue_eq fun hmem => hgoing (.inr hmem), hqueue]
  have hwaiting : waiting (ds ++ [.stopped]) = [] := (waiting_concat rfl rfl).trans hbefore
  exact {
    capacity_eq := h.capacity_eq
    accepted_eq := accepted_eq_concat rfl rfl h.accepted_eq
    length_le := hwaiting ▸ Nat.zero_le _
    queue_eq _ := hqueue.trans hwaiting.symm
    dropped_iff := by simpa using h.dropped_iff
    drained _ := ⟨hclosed, hwaiting⟩ }

theorem close (h : Holds c ds) : Holds c.close ds :=
  { h with drained := fun hmem => ⟨rfl, (h.drained hmem).2⟩ }

theorem abandon (h : Holds c ds) (hgoing : ¬ HasEnded ds) :
    Holds c.drop (ds ++ [.abandoned]) where
  capacity_eq := h.capacity_eq
  accepted_eq := accepted_eq_concat rfl rfl h.accepted_eq
  length_le := by
    rw [waiting_concat rfl rfl]
    exact h.length_le
  queue_eq hmem := absurd (by simp) hmem
  dropped_iff := by simp [Channel.drop]
  drained hmem := absurd (.inl (by simpa using hmem)) hgoing

end Holds

/-! ## The sending side -/

/-- What the history has been like when the sending side is at a stage. -/
def AtStage : Sending → History → Prop
  | .disconnected, ds => ¬ HasEnded ds ∧ isUp ds = false ∧ handed ds = settled ds
  | .connected, ds => ¬ HasEnded ds ∧ isUp ds = true ∧ handed ds = settled ds
  | .sending batch, ds => ¬ HasEnded ds ∧ isUp ds = true ∧ handed ds = settled ds ++ [batch]
  | .stopped, ds => HasEnded ds ∧ (.abandoned ∉ ds → handed ds = settled ds)

/-- The batch that was handed over and is neither sent nor given up. -/
def Sending.inFlight : Sending → List Batch
  | .sending batch => [batch]
  | .disconnected | .connected | .stopped => []

namespace AtStage

variable {sending : Sending} {ds : History} {deed : Deed}

theorem not_hasEnded (h : AtStage sending ds) (hgoing : sending ≠ .stopped) : ¬ HasEnded ds := by
  cases sending with
  | disconnected | connected | sending _ => exact h.1
  | stopped => exact absurd rfl hgoing

theorem handed_eq (h : AtStage sending ds) (habandoned : .abandoned ∉ ds) :
    handed ds = settled ds ++ sending.inFlight := by
  cases sending with
  | disconnected | connected => exact h.2.2.trans (List.append_nil _).symm
  | sending batch => exact h.2.2
  | stopped => exact (h.2 habandoned).trans (List.append_nil _).symm

/-- A deed that is none of the sending side's. -/
theorem pass (h : AtStage sending ds) (hhanded : deed.handed? = none)
    (hsettled : deed.settled? = none) (hup : deed.upAfter (isUp ds) = isUp ds)
    (hstopped : deed ≠ .stopped) (habandoned : deed ≠ .abandoned) :
    AtStage sending (ds ++ [deed]) := by
  cases sending <;>
    simpa [AtStage, hhanded, hsettled, hup, hstopped, habandoned, habandoned.symm] using h

end AtStage

/-! ## Deeds and the history before them -/

/-- What a deed tells about the history before it. -/
def Follows (before : History) : Deed → Prop
  | .accepted _ => ¬ HasEnded before ∧ (waiting before).length < capacity
  | .rejected batch line =>
    HasEnded before ∧ line = dropping "exporter stopped" batch ∨
    ¬ HasEnded before ∧ (waiting before).length = capacity ∧
      line = dropping "export queue full" batch
  | .connected | .refused _ => isUp before = false ∧ settled before = handed before
  | .handed batch =>
    isUp before = true ∧ settled before = handed before ∧ (waiting before).head? = some batch
  | .sent batch bytes =>
    isUp before = true ∧ handed before = settled before ++ [batch] ∧ frame batch = .ok bytes
  | .failed batch line =>
    isUp before = true ∧ handed before = settled before ++ [batch] ∧ SendFails batch line
  | .stopped => isUp before = true ∧ settled before = handed before ∧ waiting before = []
  | .abandoned => ¬ HasEnded before

/-- The uplink is what its history makes it, and each deed fits the history before it. -/
structure Traffic.Tracks (s : Traffic) : Prop where
  holds : Holds s.uplink.queue s.history
  stage : AtStage s.uplink.sending s.history
  follows : ∀ before deed after, s.history = before ++ deed :: after → Follows before deed

namespace Traffic

variable {s s' : Traffic} {uplink : Uplink} {deed : Deed} {acts : List Act}

namespace Tracks

theorem start : Tracks start where
  holds := .empty
  stage := ⟨by simp [HasEnded, Traffic.start], rfl, rfl⟩
  follows before deed after h := by simp [Traffic.start] at h

theorem note (h : Tracks s) (holds : Holds uplink.queue (s.history ++ [deed]))
    (stage : AtStage uplink.sending (s.history ++ [deed])) (hfollows : Follows s.history deed) :
    Tracks (s.note uplink deed) where
  holds := holds
  stage := stage
  follows := forall_split_concat h.follows hfollows

theorem waiting_eq_queue (h : Tracks s) (hgoing : ¬ HasEnded s.history) :
    waiting s.history = s.uplink.queue.queue :=
  (h.holds.queue_eq fun hmem => hgoing (.inr hmem)).symm

/-- As long as anybody may export, the sending side is gone if the queue has no receiver. -/
theorem hasEnded_iff (h : Tracks s) (hopen : s.uplink.queue.closed = false) :
    HasEnded s.history ↔ s.uplink.queue.dropped = true := by
  rw [h.holds.dropped_iff, HasEnded]
  refine or_iff_right fun hmem => ?_
  have hclosed := (h.holds.drained hmem).1
  rw [hopen] at hclosed
  cases hclosed

theorem not_hasEnded (h : Tracks s) (hopen : s.uplink.queue.closed = false)
    (hkept : s.uplink.queue.dropped = false) : ¬ HasEnded s.history := by
  rw [h.hasEnded_iff hopen, hkept]
  exact Bool.false_ne_true

theorem length_eq_of_full (h : Tracks s) (hgoing : ¬ HasEnded s.history)
    (hfull : s.uplink.queue.capacity ≤ s.uplink.queue.queue.length) :
    (waiting s.history).length = capacity := by
  rw [← h.waiting_eq_queue hgoing, h.holds.capacity_eq] at hfull
  exact Nat.le_antisymm h.holds.length_le hfull

theorem dispatchStep (h : Tracks s) (hstep : DispatchStep s s') : Tracks s' := by
  have hstage := h.stage
  cases hstep with
  | connect hsending =>
    rw [hsending] at hstage
    obtain ⟨hgoing, hdown, hhanded⟩ := hstage
    refine h.note (h.holds.pass rfl rfl nofun nofun) ?_ ⟨hdown, hhanded.symm⟩
    simp [AtStage, Deed.upAfter, Deed.handed?, Deed.settled?, hgoing, hhanded]
  | hand hsending hqueue =>
    rw [hsending] at hstage
    obtain ⟨hgoing, hup, hhanded⟩ := hstage
    refine h.note (h.holds.hand hgoing hqueue) ?_ ⟨hup, hhanded.symm, ?_⟩
    · simp [AtStage, Deed.upAfter, Deed.handed?, Deed.settled?, hgoing, hup, hhanded]
    · rw [h.waiting_eq_queue hgoing, hqueue]
      rfl
  | stop hsending hqueue hclosed =>
    rw [hsending] at hstage
    obtain ⟨hgoing, hup, hhanded⟩ := hstage
    refine h.note (h.holds.stop hgoing hclosed hqueue) ?_ ⟨hup, hhanded.symm, ?_⟩
    · simp [AtStage, Deed.handed?, Deed.settled?, hhanded]
    · rw [h.waiting_eq_queue hgoing, hqueue]
  | send hsending hframe =>
    rw [hsending] at hstage
    obtain ⟨hgoing, hup, hhanded⟩ := hstage
    refine h.note (h.holds.pass rfl rfl nofun nofun) ?_ ⟨hup, hhanded, hframe⟩
    simp [AtStage, Deed.upAfter, Deed.handed?, Deed.settled?, hgoing, hup, hhanded]
  | fail hsending hfails =>
    rw [hsending] at hstage
    obtain ⟨hgoing, hup, hhanded⟩ := hstage
    refine h.note (h.holds.pass rfl rfl nofun nofun) ?_ ⟨hup, hhanded, hfails⟩
    simp [AtStage, Deed.upAfter, Deed.handed?, Deed.settled?, hgoing, hhanded]

theorem step (h : Tracks s) (hstep : Step s s') : Tracks s' := by
  cases hstep with
  | accept hroom =>
    have hgoing := h.not_hasEnded hroom.1 hroom.2.1
    refine h.note (h.holds.accept hroom) (h.stage.pass rfl rfl rfl nofun nofun) ⟨hgoing, ?_⟩
    rw [h.waiting_eq_queue hgoing, ← h.holds.capacity_eq]
    exact hroom.2.2
  | rejectFull hopen hkept hfull =>
    have hgoing := h.not_hasEnded hopen hkept
    exact h.note (h.holds.pass rfl rfl nofun nofun) (h.stage.pass rfl rfl rfl nofun nofun)
      (.inr ⟨hgoing, h.length_eq_of_full hgoing hfull, rfl⟩)
  | rejectStopped hopen hdropped =>
    exact h.note (h.holds.pass rfl rfl nofun nofun) (h.stage.pass rfl rfl rfl nofun nofun)
      (.inl ⟨(h.hasEnded_iff hopen).2 hdropped, rfl⟩)
  | dispatch hstep => exact h.dispatchStep hstep
  | refuse hsending =>
    have hstage := h.stage
    rw [hsending] at hstage
    exact h.note (h.holds.pass rfl rfl nofun nofun) (h.stage.pass rfl rfl rfl nofun nofun)
      ⟨hstage.2.1, hstage.2.2.symm⟩
  | close hopen => exact { h with holds := h.holds.close }
  | abandon hsending =>
    have hgoing := h.stage.not_hasEnded hsending
    exact h.note (h.holds.abandon hgoing) ⟨by simp, fun hmem => absurd (by simp) hmem⟩ hgoing

theorem run (h : Tracks s) (hrun : s.run acts = some s') : Tracks s' :=
  run_induction hrun h fun _ _ hstep h => h.step hstep

end Tracks

/-! ## The sending side by itself -/

/-- How many acts the sending side has left before it comes to rest. -/
def remaining (u : Uplink) : Nat :=
  3 * u.queue.queue.length +
    match u.sending with
    | .stopped => 0
    | .connected => 1
    | .disconnected => 2
    | .sending _ => 3

theorem remaining_le_steps (u : Uplink) : remaining u ≤ u.steps := by
  unfold remaining steps
  split <;> omega

theorem DispatchStep.remaining_lt (h : DispatchStep s s') :
    remaining s'.uplink < remaining s.uplink := by
  cases h with
  | hand hsending hqueue =>
    simp only [remaining, note, hsending, hqueue, List.length_cons]
    omega
  | connect hsending | stop hsending _ _ | send hsending _ | fail hsending _ =>
    simp [remaining, note, hsending]

theorem DispatchStep.accepted_eq (h : DispatchStep s s') :
    accepted s'.history = accepted s.history := by
  cases h <;> simp [note, Deed.accepted?]

theorem DispatchStep.abandoned_not_mem (h : DispatchStep s s') (hmem : .abandoned ∉ s.history) :
    .abandoned ∉ s'.history := by
  cases h <;> simpa [note] using hmem

/-- By itself, the sending side does not go on forever. -/
theorem run_dispatch (hacts : ∀ act ∈ acts, Act.IsDispatch act) (hrun : s.run acts = some s')
    (hmem : .abandoned ∉ s.history) :
    acts.length + remaining s'.uplink ≤ remaining s.uplink ∧
      accepted s'.history = accepted s.history ∧ .abandoned ∉ s'.history := by
  induction acts generalizing s with
  | nil =>
    obtain rfl := Option.some.inj hrun
    exact ⟨Nat.le_of_eq (Nat.zero_add _), rfl, hmem⟩
  | cons act acts ih =>
    obtain ⟨hact, hacts⟩ := List.forall_mem_cons.1 hacts
    rw [Traffic.run] at hrun
    split at hrun
    · cases hrun
    · next s₁ hnext =>
      have hstep := dispatchStep_of_next hact hnext
      obtain ⟨hlength, haccepted, hmem'⟩ := ih hacts hrun (hstep.abandoned_not_mem hmem)
      refine ⟨?_, haccepted.trans hstep.accepted_eq, hmem'⟩
      have hless := hstep.remaining_lt
      rw [List.length_cons]
      omega

/-- The sending side cannot get on by itself. -/
def AtRest (s : Traffic) : Prop := ∀ act, Act.IsDispatch act → s.next act = none

/-- The sending side only comes to rest when it has handed everything over. -/
theorem Tracks.handed_eq_of_atRest (h : Tracks s) (hrest : s.AtRest)
    (hmem : .abandoned ∉ s.history) : handed s.history = accepted s.history := by
  suffices hwaiting : waiting s.history = [] by
    rw [h.holds.accepted_eq, hwaiting, List.append_nil]
  have hconnect := hrest .connect trivial
  have htake := hrest .take trivial
  have hsettle := hrest (.settle (.error "")) trivial
  have hstage := h.stage
  cases hsending : s.uplink.sending with
  | disconnected => simp [next, connect, Uplink.connect, hsending] at hconnect
  | connected =>
    rw [← h.holds.queue_eq hmem]
    rw [next, take, Option.map_eq_none_iff, Uplink.take, hsending] at htake
    cases hreceive : s.uplink.queue.receive? with
    | none => exact Channel.receive?_eq_none_iff.1 hreceive
    | some received => simp [hreceive] at htake
  | sending batch =>
    obtain ⟨line, hline⟩ := exists_settle_error hsending ""
    cases hsettle.symm.trans hline
  | stopped =>
    rw [hsending] at hstage
    exact (h.holds.drained (hstage.1.resolve_right hmem)).2

/-! ## Every run -/

/-- An export is answered at once, whatever the sending side is at. -/
theorem Tracks.submit_answers (h : Tracks s) (hopen : s.uplink.queue.closed = false)
    (batch : Batch) :
    ∃ deed s', s.next (.submit batch) = some s' ∧ s'.history = s.history ++ [deed] ∧
      s'.uplink.sending = s.uplink.sending ∧
      (HasEnded s.history ∧ deed = .rejected batch (dropping "exporter stopped" batch) ∨
        ¬ HasEnded s.history ∧ (waiting s.history).length = capacity ∧
          deed = .rejected batch (dropping "export queue full" batch) ∨
        ¬ HasEnded s.history ∧ (waiting s.history).length < capacity ∧
          deed = .accepted batch) := by
  obtain ⟨hroom, hsubmit⟩ | ⟨hkept, hfull, hsubmit⟩ | ⟨hdropped, hsubmit⟩ :=
    submit_cases hopen batch
  · have hgoing := h.not_hasEnded hopen hroom.2.1
    have hlength := hroom.2.2
    rw [← h.waiting_eq_queue hgoing, h.holds.capacity_eq] at hlength
    exact ⟨_, _, hsubmit, rfl, rfl, .inr (.inr ⟨hgoing, hlength, rfl⟩)⟩
  · have hgoing := h.not_hasEnded hopen hkept
    have hlength := h.length_eq_of_full hgoing hfull
    exact ⟨_, _, hsubmit, rfl, rfl, .inr (.inl ⟨hgoing, hlength, rfl⟩)⟩
  · have hended := (h.hasEnded_iff hopen).2 hdropped
    exact ⟨_, _, hsubmit, rfl, rfl, .inl ⟨hended, rfl⟩⟩

/-- A connection does not outlive a batch that fails. -/
theorem Tracks.connected_between (h : Tracks s) {before between after : History}
    {batch batch' : Batch} {line line' : Log.Line}
    (hsplit : s.history
      = before ++ .failed batch line :: between ++ .failed batch' line' :: after) :
    .connected ∈ between := by
  have hup := (h.follows _ _ _ hsplit).1
  rw [List.append_cons] at hup
  exact connected_mem_of_isUp (by rw [isUp_concat, Deed.upAfter]) hup

/-- In every run, an export is answered at once, and a batch is rejected exactly when the sending
side is gone or 1024 batches wait. Batches are handed to the codec in the order in which they were
accepted and none twice, one at a time and over a connection, and what fails is the one that was
handed over last. Between two that fail a connection is made. Unless the sending side is ended from
outside, every batch that was accepted has been sent, has failed, is on its way or waits; and the
sending side by itself comes to rest, with everything handed over. -/
theorem run_hands_over_once (h : start.run acts = some s) :
    (s.uplink.queue.closed = false → ∀ batch, ∃ deed s',
      s.next (.submit batch) = some s' ∧ s'.history = s.history ++ [deed] ∧
      s'.uplink.sending = s.uplink.sending ∧
      (HasEnded s.history ∧ deed = .rejected batch (dropping "exporter stopped" batch) ∨
        ¬ HasEnded s.history ∧ (waiting s.history).length = 1024 ∧
          deed = .rejected batch (dropping "export queue full" batch) ∨
        ¬ HasEnded s.history ∧ (waiting s.history).length < 1024 ∧ deed = .accepted batch)) ∧
    handed s.history <+: accepted s.history ∧
    (∀ before batch after, s.history = before ++ .handed batch :: after →
      isUp before = true ∧ settled before = handed before) ∧
    (∀ before batch bytes after, s.history = before ++ .sent batch bytes :: after →
      handed before = settled before ++ [batch] ∧ frame batch = .ok bytes) ∧
    (∀ before batch line after, s.history = before ++ .failed batch line :: after →
      handed before = settled before ++ [batch] ∧ SendFails batch line) ∧
    (∀ before batch batch' line line' between after,
      s.history = before ++ .failed batch line :: between ++ .failed batch' line' :: after →
      .connected ∈ between) ∧
    (.abandoned ∉ s.history →
      accepted s.history
        = settled s.history ++ s.uplink.sending.inFlight ++ s.uplink.queue.queue ∧
      ∀ acts' s', (∀ act ∈ acts', Act.IsDispatch act) → s.run acts' = some s' →
        acts'.length ≤ s.uplink.steps ∧
        (s'.AtRest → handed s'.history = accepted s.history)) := by
  have htracks := Tracks.start.run h
  refine ⟨htracks.submit_answers, ⟨_, htracks.holds.accepted_eq.symm⟩, ?_, ?_, ?_, ?_,
    fun hmem => ⟨?_, ?_⟩⟩
  · intro before batch after hsplit
    obtain ⟨hup, hsettled, -⟩ := htracks.follows _ _ _ hsplit
    exact ⟨hup, hsettled⟩
  · intro before batch bytes after hsplit
    exact (htracks.follows _ _ _ hsplit).2
  · intro before batch line after hsplit
    exact (htracks.follows _ _ _ hsplit).2
  · intro before batch batch' line line' between after hsplit
    exact htracks.connected_between hsplit
  · rw [htracks.holds.accepted_eq, htracks.holds.queue_eq hmem, htracks.stage.handed_eq hmem]
  · intro acts' s' hacts hrun
    obtain ⟨hlength, haccepted, hmem'⟩ := run_dispatch hacts hrun hmem
    refine ⟨?_, fun hrest => ?_⟩
    · have hsteps := remaining_le_steps s.uplink
      omega
    · rw [← haccepted]
      exact (htracks.run hrun).handed_eq_of_atRest hrest hmem'

/-- A batch of one record. -/
def sample (port : UInt16) : Batch := [.ofMetrics ⟨0⟩ (.tcpFrom port 3) (.ofPacket 60 5)]

/-- A batch is on its way while the next one waits. -/
def underway : Traffic where
  uplink :=
    { queue := { capacity, queue := [sample 2], closed := false, dropped := false }
      sending := .sending (sample 1) }
  history := [.accepted (sample 1), .connected, .handed (sample 1), .accepted (sample 2)]

/-- After an attempt to connect in vain the next batch is handed over, and another one waits. -/
def reconnection : List Act :=
  [.refuse "peer" "connection refused", .connect, .take, .submit (sample 3)]

/-- The batch that fails is lost, and the next one is not. -/
theorem run_hands_over_once_reconnection :
    start.run [.submit (sample 1), .connect, .take, .submit (sample 2)] = some underway ∧
    ∃ s, underway.run (.settle (.error "broken pipe") :: reconnection) = some s ∧
      settled s.history = [sample 1] ∧ handed s.history <+: accepted s.history ∧
      accepted s.history = settled s.history ++ [sample 2] ++ [sample 3] := by
  have hunderway : start.run [.submit (sample 1), .connect, .take, .submit (sample 2)]
      = some underway := rfl
  have hsending : underway.uplink.sending = .sending (sample 1) := rfl
  obtain ⟨line, hsettle⟩ := exists_settle_error hsending "broken pipe"
  have hnext : underway.run (.settle (.error "broken pipe") :: reconnection)
      = (underway.note { underway.uplink with sending := .disconnected }
          (.failed (sample 1) line)).run reconnection := by
    rw [run, next, hsettle]
  refine ⟨hunderway, _, hnext, ?_⟩
  have hrun := (run_append hunderway).trans hnext
  obtain ⟨-, horder, -, -, -, -, hkept⟩ := run_hands_over_once hrun
  refine ⟨rfl, horder, (hkept ?_).1⟩
  simp [note, underway]

end Traffic

end Flowmeter.Export
