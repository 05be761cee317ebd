-- SUMMARY: Once the source has closed, the stages end one behind the other after a bounded number of steps.
import Flowmeter.Pipeline.Settle
import Flowmeter.Proofs.Cache.Size
import Flowmeter.Proofs.Flow.Samples
import Flowmeter.Proofs.Pipeline.Progress

/-!
# Shutdown

What is left to do once the intake has ended is a number. A record counts the
more, the further it is from the exporter, and a flow in the cache counts as
much as the record from which it came would by then. Every step of a stage makes
the number smaller, unless it is an idle tick, which leaves it alone. Waiting
leaves it alone as well, and only a request for a flush adds to it.

So the stages get through with what there is after so many steps, in whatever
order they act and however many ticks there are in between.
-/

namespace Flowmeter

namespace Pipeline

variable {p q : Pipeline}

/-! ## What is left to do -/

/-- The number of steps that are left at most, once the intake has ended. -/
def remaining (p : Pipeline) : Nat :=
  8 * p.raw.queue.length + p.flushRequested.toNat + p.nextTick.isNone.toNat
    + 7 * p.cache.size + Phase.work 6 p.caching
    + 5 * p.evicted.queue.length + Phase.work 4 p.deduping
    + 3 * p.deduped.queue.length + Phase.work 2 p.decorating
    + p.decorated.queue.length + Phase.work 0 p.exporting

theorem Phase.work_ready {α : Type} (weight : Nat) : Phase.work weight (.ready : Phase α) = 1 := rfl

theorem Phase.work_ended {α : Type} (weight : Nat) (e : Ending) :
    Phase.work weight (.ended e : Phase α) = 0 := rfl

theorem Phase.work_of_items {α : Type} {phase : Phase α} {item : α} (h : phase.items = [item])
    (weight : Nat) : Phase.work weight phase = weight + 1 := by
  cases phase with
  | ready => cases h
  | holding _ => rfl
  | parting _ => rfl
  | ended _ => cases h

theorem Phase.work_pos {α : Type} {phase : Phase α} (h : phase.hasEnded = false) (weight : Nat) :
    1 ≤ Phase.work weight phase := by
  cases phase with
  | ready => exact Nat.le_refl _
  | holding _ => exact Nat.le_add_left _ _
  | parting _ => exact Nat.le_add_left _ _
  | ended _ => cases h

theorem Phase.work_handOver_le (weight : Nat) (batch : Batch) :
    Phase.work weight (.handOver batch) ≤ weight + 1 := by
  unfold Phase.handOver
  split
  · exact Nat.le_add_left _ _
  · exact Nat.le_refl _

/-- Each record of a batch that is handed over pays for it. -/
theorem Phase.work_handOver_le_length (weight : Nat) (batch : Batch) :
    Phase.work weight (.handOver batch) ≤ 1 + weight * batch.length := by
  cases batch with
  | nil => exact Nat.le_refl _
  | cons r batch =>
    have hpays := Nat.le_mul_of_pos_right weight (show 0 < (r :: batch).length by simp)
    have hwork := work_handOver_le weight (r :: batch)
    omega

/-! ## Steps of the stages -/

theorem remaining_stop_lt (stage : Stage) (hruns : (p.ending? stage).isSome = false)
    (hstage : stage ≠ .intake) (e : Ending) : (p.stop stage e).remaining < p.remaining := by
  rw [ending?_eq] at hruns
  cases stage with
  | intake => exact absurd rfl hstage
  | cache =>
    have := Phase.work_pos hruns 6
    simp only [remaining, stop, Channel.drop, Channel.close, Phase.work_ended, List.length_nil]
    omega
  | deduper =>
    have := Phase.work_pos hruns 4
    simp only [remaining, stop, Channel.drop, Channel.close, Phase.work_ended, List.length_nil]
    omega
  | decorator =>
    have := Phase.work_pos hruns 2
    simp only [remaining, stop, Channel.drop, Channel.close, Phase.work_ended, List.length_nil]
    omega
  | «export» =>
    have := Phase.work_pos hruns 0
    simp only [remaining, stop, Channel.drop, Phase.work_ended, List.length_nil]
    omega

theorem DeduperStep.remaining_lt (h : DeduperStep p q) : q.remaining < p.remaining := by
  have hruns : (p.ending? .deduper).isSome = false := (ending?_eq p _).trans h.runs
  cases h with
  | @judge _ out _ _ hready hqueue =>
    have := Phase.work_handOver_le 4 out
    simp only [remaining, hready, hqueue, Phase.work_ready, List.length_cons]
    omega
  | @fail _ queue _ _ hqueue =>
    have hstop := remaining_stop_lt (p := { p with
      evicted := { p.evicted with queue }, now := p.now + p.pace }) .deduper hruns (by simp) .failed
    refine Nat.lt_of_lt_of_le hstop ?_
    simp only [remaining, hqueue, List.length_cons]
    omega
  | finish => exact remaining_stop_lt .deduper hruns (by simp) _
  | send hitems =>
    simp only [remaining, Phase.work_of_items hitems, Phase.work_ready, Channel.push,
      List.length_append, List.length_singleton]
    omega
  | refuse => exact remaining_stop_lt .deduper hruns (by simp) _

theorem DecoratorStep.remaining_lt (h : DecoratorStep p q) : q.remaining < p.remaining := by
  have hruns : (p.ending? .decorator).isSome = false := (ending?_eq p _).trans h.runs
  cases h with
  | decorate hready hqueue =>
    simp only [remaining, hready, hqueue, Phase.work, List.length_cons]
    omega
  | finish => exact remaining_stop_lt .decorator hruns (by simp) _
  | send hitems =>
    simp only [remaining, Phase.work_of_items hitems, Phase.work_ready, Channel.push,
      List.length_append, List.length_singleton]
    omega
  | refuse => exact remaining_stop_lt .decorator hruns (by simp) _

theorem ExportStep.remaining_lt (h : ExportStep p q) : q.remaining < p.remaining := by
  have hruns : (p.ending? .export).isSome = false := (ending?_eq p _).trans h.runs
  cases h with
  | «export» _ hqueue =>
    simp only [remaining, hqueue, List.length_cons]
    omega
  | @fail _ queue _ hqueue =>
    have hstop := remaining_stop_lt (p := { p with decorated := { p.decorated with queue } })
      .export hruns (by simp) .failed
    refine Nat.lt_of_lt_of_le hstop ?_
    simp only [remaining, hqueue, List.length_cons]
    omega
  | finish => exact remaining_stop_lt .export hruns (by simp) _

/-! ## Actions of the cache

The cache may tick idly, so here it matters which action it was. -/

theorem runs_of_ready (hready : p.caching = .ready) : (p.ending? .cache).isSome = false := by
  rw [ending?_eq, hready]
  rfl

theorem remaining_evict_le (hready : p.caching = .ready) (batch : Batch) :
    (p.evict batch).remaining ≤ p.remaining + 6 * batch.length := by
  rw [evict_eq hready]
  have := Phase.work_handOver_le_length 6 batch
  simp only [remaining, hready, Phase.work_ready]
  omega

theorem remaining_startTimer_lt (h : p.startTimer = some q) : q.remaining < p.remaining := by
  unfold startTimer at h
  split at h
  · next hready hnone =>
    split at h
    · obtain rfl := Option.some.inj h
      exact remaining_stop_lt .cache (runs_of_ready hready) (by simp) _
    · split at h
      · obtain rfl := Option.some.inj h
        simp only [remaining, hnone, Option.isNone_some, Option.isNone_none, Bool.toNat_false,
          Bool.toNat_true]
        omega
      · obtain rfl := Option.some.inj h
        exact remaining_stop_lt .cache (runs_of_ready hready) (by simp) _
  · cases h

theorem remaining_insert_lt (h : p.insert = some q) : q.remaining < p.remaining := by
  unfold insert at h
  split at h
  · next r raw hready _ hreceive =>
    obtain ⟨queue, hqueue, rfl⟩ := Channel.receive?_eq_some_iff.1 hreceive
    simp only [Option.some.injEq] at h
    subst h
    refine Nat.lt_of_le_of_lt (remaining_evict_le ?_ _) ?_
    · exact hready
    · have := p.cache.size_insert r (p.now + p.pace)
      simp only [remaining, hqueue, List.length_cons]
      omega
  · cases h

theorem remaining_skipTicks_le (h : p.skipTicks = some q) : q.remaining ≤ p.remaining := by
  unfold skipTicks at h
  split at h
  · next hdue _ =>
    split at h
    · cases h
    · obtain rfl := Option.some.inj h
      simp only [remaining, hdue, Option.isNone_some]
      exact Nat.le_refl _
  · cases h

/-- A tick that expires flows hands them over. -/
theorem remaining_tick (h : p.tick = some q) :
    q.remaining ≤ p.remaining ∧ (Action.tick.isIdle p = false → q.remaining < p.remaining) := by
  unfold tick at h
  split at h
  · next due hready hdue =>
    split at h
    · cases h
    · split at h
      · next batch cache hexpire =>
        obtain rfl := Option.some.inj h
        have hevict := remaining_evict_le (p := { p with
          cache, nextTick := some (due + cache.timeout.nanos) }) hready batch
        have hsize := Cache.size_expire hexpire
        simp only [remaining, hdue, Option.isNone_some] at hevict ⊢
        refine ⟨by omega, fun hbusy => ?_⟩
        cases batch with
        | nil =>
          simp only [Action.isIdle, hexpire] at hbusy
          cases hbusy
        | cons r batch =>
          rw [List.length_cons] at hevict hsize
          omega
      · obtain rfl := Option.some.inj h
        have hless := remaining_stop_lt .cache (runs_of_ready hready) (by simp) .failed
        exact ⟨Nat.le_of_lt hless, fun _ => hless⟩
  · cases h

theorem remaining_flush_lt (h : p.flush = some q) : q.remaining < p.remaining := by
  unfold flush at h
  split at h
  · next hready _ hrequested =>
    simp only [Option.some.injEq] at h
    subst h
    refine Nat.lt_of_le_of_lt (remaining_evict_le ?_ _) ?_
    · exact hready
    · simp only [remaining, hrequested, Cache.size_drain, Cache.length_drain, Bool.toNat_false,
        Bool.toNat_true]
      omega
  · cases h

theorem remaining_drain_lt (h : p.drain = some q) : q.remaining < p.remaining := by
  unfold drain at h
  split at h
  · next hready hdue =>
    split at h
    · simp only [Option.some.injEq] at h
      subst h
      split
      · refine Nat.lt_of_lt_of_le (remaining_stop_lt .cache ?_ (by simp) _) ?_
        · exact runs_of_ready hready
        · simp only [remaining, Cache.size_drain]
          omega
      · next hsome =>
        have hlength : 1 ≤ p.cache.size := by
          rw [← Cache.length_drain, Nat.one_le_iff_ne_zero]
          intro hzero
          exact hsome (List.isEmpty_iff.2 (List.length_eq_zero_iff.1 hzero))
        simp only [remaining, hready, Phase.work, Cache.size_drain]
        omega
    · cases h
  · cases h

theorem remaining_sendEvicted_lt (h : p.sendEvicted = some q) : q.remaining < p.remaining := by
  have hruns : (p.ending? .cache).isSome = false :=
    (ending?_eq p _).trans (cacheStep_of_sendEvicted h).runs
  unfold sendEvicted at h
  split at h
  · next hholding =>
    split at h
    · next hsend =>
      obtain ⟨-, rfl⟩ := Channel.send_eq_accepted_iff.1 hsend
      obtain rfl := Option.some.inj h
      simp only [remaining, hholding, Phase.work, Channel.push, List.length_append,
        List.length_singleton]
      omega
    · cases h
    · obtain rfl := Option.some.inj h
      exact remaining_stop_lt .cache hruns (by simp) _
  · next hparting =>
    split at h
    · next hsend =>
      obtain ⟨-, rfl⟩ := Channel.send_eq_accepted_iff.1 hsend
      obtain rfl := Option.some.inj h
      simp only [remaining, stop, hparting, Phase.work, Channel.push, Channel.close, Channel.drop,
        List.length_append, List.length_singleton, List.length_nil]
      omega
    · cases h
    · obtain rfl := Option.some.inj h
      exact remaining_stop_lt .cache hruns (by simp) _
  · cases h

/-! ## Steps and runs -/

/-- An intake that has ended does not act. -/
theorem not_intakeStep {sent : List RawRecord} (hclosed : p.intake.hasEnded = true) :
    ¬ IntakeStep p sent q := by
  intro h
  rw [h.runs] at hclosed
  cases hclosed

/-- Once the intake has ended, a stage that does something leaves less to do. -/
theorem BusyStep.remaining_lt (h : BusyStep p q) (hclosed : p.intake.hasEnded = true) :
    q.remaining < p.remaining := by
  obtain ⟨action, hbusy, h⟩ := h
  cases action with
  | quit stage =>
    obtain ⟨-, hnone, rfl⟩ := quit_eq_some h
    have hruns := Option.isSome_eq_false_iff.2 (Option.isNone_iff_eq_none.2 hnone)
    apply remaining_stop_lt stage hruns
    rintro rfl
    rw [ending?_eq, hclosed] at hruns
    cases hruns
  | read => exact absurd (intakeStep_of_read h) (not_intakeStep hclosed)
  | sendRaw => exact absurd (intakeStep_of_sendRaw h) (not_intakeStep hclosed)
  | startTimer => exact remaining_startTimer_lt h
  | insert => exact remaining_insert_lt h
  | skipTicks => cases hbusy
  | tick => exact (remaining_tick h).2 hbusy
  | flush => exact remaining_flush_lt h
  | drain => exact remaining_drain_lt h
  | sendEvicted => exact remaining_sendEvicted_lt h
  | dedup => exact (deduperStep_of_dedup h).remaining_lt
  | sendDeduped => exact (deduperStep_of_sendDeduped h).remaining_lt
  | decorate => exact (decoratorStep_of_decorate h).remaining_lt
  | sendDecorated => exact (decoratorStep_of_sendDecorated h).remaining_lt
  | «export» => exact (exportStep_of_export h).remaining_lt

namespace Act

/-- Whether a stage does something by the act. -/
def isBusy (p : Pipeline) : Act → Bool
  | .stage action => !action.isIdle p
  | .arrive _ | .closeSource | .requestFlush | .wait _ | .cancel => false

def isRequest : Act → Bool
  | .requestFlush => true
  | .stage _ | .arrive _ | .closeSource | .wait _ | .cancel => false

/-- A busy act takes one off what is left to do, and a request adds one at most. -/
theorem remaining_le {act : Act} (h : act.apply p = some q) (hclosed : p.intake.hasEnded = true) :
    (act.isBusy p).toNat + q.remaining ≤ p.remaining + act.isRequest.toNat := by
  cases act with
  | stage action =>
    cases hidle : action.isIdle p with
    | false =>
      have hless := BusyStep.remaining_lt ⟨action, hidle, h⟩ hclosed
      simp only [isBusy, hidle, isRequest, Bool.not_false, Bool.toNat_true, Bool.toNat_false]
      omega
    | true =>
      have hle : q.remaining ≤ p.remaining := by
        cases action with
        | skipTicks => exact remaining_skipTicks_le h
        | tick => exact (remaining_tick h).1
        | _ => cases hidle
      simpa [isBusy, hidle, isRequest] using hle
  | arrive result =>
    simp only [apply] at h
    split at h
    · cases h
    · obtain rfl := Option.some.inj h
      simp [isBusy, isRequest, remaining]
  | closeSource =>
    obtain rfl := Option.some.inj h
    simp [isBusy, isRequest, remaining]
  | requestFlush =>
    obtain rfl := Option.some.inj h
    have := Bool.toNat_le p.flushRequested
    simp only [isBusy, isRequest, remaining, Bool.toNat_true, Bool.toNat_false]
    omega
  | wait nanos =>
    obtain rfl := Option.some.inj h
    simp [isBusy, isRequest, remaining]
  | cancel =>
    obtain rfl := Option.some.inj h
    simp [isBusy, isRequest, remaining]

end Act

theorem BusyStep.intake_ended (h : BusyStep p q) (hclosed : p.intake.hasEnded = true) :
    q.intake.hasEnded = true := by
  obtain ⟨action, -, happly⟩ := h
  have hstep := step_of_apply (show (Act.stage action).apply p = some q from happly)
  exact (ending?_eq q .intake).symm.trans (hstep.ended_mono ((ending?_eq p .intake).trans hclosed))

/-- Stages do not act for ever. -/
theorem exists_not_busyStep (hclosed : p.intake.hasEnded = true) {f : Nat → Pipeline}
    (hstart : f 0 = p) : ∃ n, ¬ BusyStep (f n) (f (n + 1)) := by
  apply Classical.byContradiction
  intro hall
  have hbusy : ∀ n, BusyStep (f n) (f (n + 1)) :=
    fun n => Classical.byContradiction fun hidle => hall ⟨n, hidle⟩
  have hpays : ∀ n, (f n).intake.hasEnded = true ∧ n + (f n).remaining ≤ p.remaining := by
    intro n
    induction n with
    | zero =>
      rw [hstart]
      exact ⟨hclosed, Nat.le_of_eq (Nat.zero_add _)⟩
    | succ n ih =>
      have hless := (hbusy n).remaining_lt ih.1
      exact ⟨(hbusy n).intake_ended ih.1, by omega⟩
  have := (hpays (p.remaining + 1)).2
  omega

namespace Trace

variable {t t' : Trace} {act : Act} {acts : List Act}

/-- How often stages do something while the acts happen. -/
def effort : Trace → List Act → Nat
  | _, [] => 0
  | t, act :: acts =>
    match t.next act with
    | none => 0
    | some t' => (act.isBusy t.pipeline).toNat + effort t' acts

/-- Once the intake has ended, what was left to do and what was requested pays for
all that the stages do. -/
theorem effort_le (hrun : t.run acts = some t') (hclosed : t.pipeline.intake.hasEnded = true) :
    t.effort acts + t'.pipeline.remaining ≤ t.pipeline.remaining + acts.countP Act.isRequest := by
  induction acts generalizing t with
  | nil =>
    obtain rfl := Option.some.inj hrun
    exact Nat.le_of_eq (Nat.zero_add _)
  | cons act acts ih =>
    obtain ⟨t₁, hnext, hlater⟩ := run_cons hrun
    have happly := apply_of_next hnext
    have hstays : t₁.pipeline.intake.hasEnded = true := by
      have hended := (step_of_apply happly).ended_mono ((ending?_eq _ .intake).trans hclosed)
      rwa [ending?_eq] at hended
    have hfirst := Act.remaining_le happly hclosed
    have hrest := ih hlater hstays
    have hcount : (act :: acts).countP Act.isRequest
        = act.isRequest.toNat + acts.countP Act.isRequest := by
      cases hrequest : act.isRequest <;> simp [hrequest, Nat.add_comm]
    rw [effort, hnext, hcount]
    dsimp only
    omega

end Trace

/-! ## Shutting down -/

/-- What holds between two steps of an undisturbed run. -/
structure Orderly (p : Pipeline) : Prop where
  wired : p.Wired
  spacious : p.Spacious
  noted : p.Noted
  inOrder : p.EndsInOrder

theorem Trace.orderly_of_run {setup : Setup} (hcomplete : setup.IsComplete)
    (hbatch : 1 ≤ setup.batchCapacity) {now : Instant} {acts : List Act} {t : Trace}
    (hrun : (Trace.start (Pipeline.start setup now)).run acts = some t)
    (ht : t.pipeline.Undisturbed) : t.pipeline.Orderly := by
  revert ht
  refine Trace.run_induction (P := fun t => t.pipeline.Undisturbed → t.pipeline.Orderly) hrun ?_ ?_
  · intro _
    exact ⟨start_wired hcomplete now, start_spacious hbatch now, start_noted hcomplete now,
      List.nil_prefix⟩
  · intro t t' arrived sent hstep _ _ ih ht'
    obtain ⟨hwired, hspacious, hnoted, horder⟩ := ih (hstep.undisturbed ht')
    exact ⟨hstep.wired hwired ht', hstep.spacious hspacious, hstep.noted hnoted,
      hstep.endsInOrder hwired hnoted ht' horder⟩

/-- Shutting down cannot get stuck. As soon as the source has closed, and with it the
intake has ended, some stage can do something until all have ended, and they can
do so only so many more times, whatever else happens in between. The stages
end in their order, and each of them has taken all of its input by then. -/
theorem Trace.shuts_down {setup : Setup} (hcomplete : setup.IsComplete)
    (hbatch : 1 ≤ setup.batchCapacity) {now : Instant} {acts : List Act} {t : Trace}
    (hrun : (Trace.start (Pipeline.start setup now)).run acts = some t)
    (ht : t.pipeline.Undisturbed) :
    (t.pipeline.intake.hasEnded = true →
      (t.pipeline.HasEnded ∨ t.pipeline.IsBusy) ∧
      (∀ later t', t.run later = some t' →
        t.effort later ≤ t.pipeline.remaining + later.countP Act.isRequest) ∧
      ∀ f : Nat → Pipeline, f 0 = t.pipeline → ∃ n, ¬ BusyStep (f n) (f (n + 1))) ∧
    t.pipeline.EndsInOrder ∧
    ∀ earlier act later t₁ t₂ stage, acts = earlier ++ act :: later →
      (Trace.start (Pipeline.start setup now)).run earlier = some t₁ → t₁.next act = some t₂ →
      (t₁.pipeline.ending? stage).isSome = false → (t₂.pipeline.ending? stage).isSome = true →
      t₁.pipeline.InputExhausted stage := by
  have horderly := Trace.orderly_of_run hcomplete hbatch hrun ht
  refine ⟨fun hclosed => ⟨?_, ?_, ?_⟩, horderly.inOrder, ?_⟩
  · exact hasEnded_or_isBusy horderly.wired horderly.spacious hclosed
  · intro later t' hlater
    have heffort := effort_le hlater hclosed
    omega
  · intro f hstart
    exact exists_not_busyStep hclosed hstart
  · intro earlier act later t₁ t₂ stage hacts hearlier hnext hruns hended
    -- The run goes through `t₁` and `t₂`, which are undisturbed as its end is.
    have hafter : t₂.run later = some t := by
      rw [hacts, run_append, hearlier, Option.bind_some, run, hnext] at hrun
      exact hrun
    have ht₂ := undisturbed_of_run hafter ht
    have hstep := step_of_apply (apply_of_next hnext)
    have hbefore := Trace.orderly_of_run hcomplete hbatch hearlier (hstep.undisturbed ht₂)
    exact hstep.inputExhausted hbefore.wired ht₂ hruns hended

/-- A pipeline in which there is room for one flow in the cache and for one item in
each channel. -/
def narrow : Setup where
  cache := .empty 1 (.ofSeconds 5) ⟨0⟩
  deduper := .empty .none .drop .zero
  decorator := { links := [], agentIp := .unspecified }
  rawCapacity := 1
  batchCapacity := 1
  pace := 0
  exporterFailsAt := none
  stages := Stage.all

/-- Two packets of two flows arrive, and the source closes. The second one has taken
the place of the first in the cache, and that one waits to be sent. -/
def twoPackets : List Act :=
  [.arrive (.ok (RawRecord.encode ⟨.tcpFrom 1 3, .ofPacket 60 5⟩)),
    .arrive (.ok (RawRecord.encode ⟨.tcpFrom 2 3, .ofPacket 60 6⟩)), .closeSource,
    .stage .startTimer, .stage .read, .stage .sendRaw, .stage .insert, .stage .read,
    .stage .sendRaw, .stage .insert, .stage .read]

/-- The stages have something to do, and do at most seventeen things more. -/
theorem Trace.shuts_down_twoPackets :
    narrow.IsComplete ∧ 1 ≤ narrow.batchCapacity ∧
    ∃ t, (Trace.start (Pipeline.start narrow 0)).run twoPackets = some t ∧
      t.pipeline.Undisturbed ∧ t.pipeline.intake.hasEnded = true ∧ t.pipeline.IsBusy ∧
      (∀ later t', t.run later = some t' → t.effort later ≤ 17 + later.countP Act.isRequest) ∧
      t.pipeline.EndsInOrder := by
  have hcomplete : narrow.IsComplete := Stage.mem_all
  obtain ⟨t, hrun, ht, hclosed, hremaining, hruns⟩ :
      ∃ t, (Trace.start (Pipeline.start narrow 0)).run twoPackets = some t ∧
        t.pipeline.Undisturbed ∧ t.pipeline.intake.hasEnded = true ∧ t.pipeline.remaining = 17 ∧
        t.pipeline.ending? .cache = none :=
    ⟨_, rfl, ⟨rfl, by decide⟩, rfl, rfl, rfl⟩
  obtain ⟨hcloses, horder, -⟩ := Trace.shuts_down hcomplete (Nat.le_refl _) hrun ht
  obtain ⟨hprogress, hbound, -⟩ := hcloses hclosed
  rw [hremaining] at hbound
  refine ⟨hcomplete, Nat.le_refl _, t, hrun, ht, hclosed, ?_, hbound, horder⟩
  apply hprogress.resolve_left
  intro hended
  have hcache := hended .cache
  rw [hruns] at hcache
  cases hcache

end Pipeline

end Flowmeter
