-- SUMMARY: The pipeline as a step relation: all that each stage and the outside world can do, in which states.
import Flowmeter.Pipeline.Action
import Flowmeter.Proofs.Pipeline.Channel

/-!
# Steps of the pipeline

A stage has a handful of things that it may do, each with a guard and an
outcome. Each relation below lists those of one stage, and every action is one
of them. What holds of a whole run is proved by cases on these relations, so
that no proof has to look into the actions again.
-/

namespace Flowmeter.Pipeline

/-! ## Acts -/

/-- What happens next: an action of a stage, or an act of the outside world. -/
inductive Act where
  | stage (action : Action)
  /-- There is a result for one more reading of the source. -/
  | arrive (result : Except Intake.ReadError Bytes)
  | closeSource
  | requestFlush
  | wait (nanos : Nat)
  | cancel

namespace Act

/-- The state after the act, if it can happen. Nothing arrives at a closed source. -/
def apply (p : Pipeline) : Act → Option Pipeline
  | .stage action => action.apply p
  | .arrive result => if p.sourceClosed then none else some { p with source := p.source ++ [result] }
  | .closeSource => some { p with sourceClosed := true }
  | .requestFlush => some { p with flushRequested := true }
  | .wait nanos => some { p with now := p.now + nanos }
  | .cancel => some { p with cancelled := true }

/-- What the act adds to the results of readings. -/
def arrived : Act → List (Except Intake.ReadError Bytes)
  | .arrive result => [result]
  | .stage _ | .closeSource | .requestFlush | .wait _ | .cancel => []

/-- The record that the intake sends to the cache by the act. -/
def sent (p : Pipeline) : Act → List RawRecord
  | .stage .sendRaw =>
    match p.intake with
    | .holding r | .parting r =>
      match p.raw.send r with
      | .accepted _ => [r]
      | .full | .refused => []
    | .ready | .ended _ => []
  | _ => []

end Act

/-! ## Stages -/

/-- What the intake does: the records that it sends, and the state it leaves. -/
inductive IntakeStep (p : Pipeline) : List RawRecord → Pipeline → Prop where
  | finish : p.intake = .ready → p.isResting = false → p.source = [] → p.sourceClosed = true →
      IntakeStep p [] (p.stop .intake .finished)
  | readClosed {result : Except Intake.ReadError Bytes} {source : List _} :
      p.intake = .ready → p.isResting = false → p.source = result :: source →
      Intake.receive result = .closed →
      IntakeStep p [] ({ p with source }.stop .intake .finished)
  | readFailed {result : Except Intake.ReadError Bytes} {source : List _} {warning : Log.Line} :
      p.intake = .ready → p.isResting = false → p.source = result :: source →
      Intake.receive result = .failed warning →
      IntakeStep p [] { p with source, restsUntil := p.now + Intake.restNanos }
  | readMalformed {result : Except Intake.ReadError Bytes} {source : List _} {warning : Log.Line} :
      p.intake = .ready → p.isResting = false → p.source = result :: source →
      Intake.receive result = .malformed warning →
      IntakeStep p [] { p with source }
  | readRecord {result : Except Intake.ReadError Bytes} {source : List _} {r : RawRecord} :
      p.intake = .ready → p.isResting = false → p.source = result :: source →
      Intake.receive result = .record r →
      IntakeStep p []
        { p with
          source
          intake := .holding r
          flushes := if r.metrics.mapFull then p.flushes + 1 else p.flushes
          flushRequested := r.metrics.mapFull || p.flushRequested }
  | send {r : RawRecord} : p.intake.items = [r] → p.raw.HasRoom →
      IntakeStep p [r] { p with intake := .ready, raw := p.raw.push r }
  | refuse {r : RawRecord} : p.intake.items = [r] → p.raw.IsCut →
      IntakeStep p [] (p.stop .intake .finished)

inductive CacheStep (p : Pipeline) : Pipeline → Prop where
  | startTimer {due : Instant} : p.caching = .ready → p.nextTick = none →
      p.cache.timeout ≠ .zero → Instant.add p.now p.cache.timeout = .ok due →
      CacheStep p { p with nextTick := some due }
  | failTimer : p.caching = .ready → p.nextTick = none →
      (p.cache.timeout = .zero ∨ ∃ cause, Instant.add p.now p.cache.timeout = .error cause) →
      CacheStep p (p.stop .cache .failed)
  | insert {due : Instant} {r : RawRecord} {queue : List RawRecord} :
      p.caching = .ready → p.nextTick = some due → p.raw.queue = r :: queue →
      CacheStep p
        { p with
          raw := { p.raw with queue }
          cache := (p.cache.insert r (p.now + p.pace)).2
          now := p.now + p.pace
          caching := .handOver (p.cache.insert r (p.now + p.pace)).1.toList }
  | skipTicks {due : Instant} {cache : Cache} : p.caching = .ready → p.nextTick = some due →
      due ≤ p.now → p.cache.expire p.now = .ok ([], cache) →
      CacheStep p
        { p with
          nextTick := some
            (due + ((p.now - due) / p.cache.timeout.nanos + 1) * p.cache.timeout.nanos) }
  | tick {due : Instant} {batch : Batch} {cache : Cache} : p.caching = .ready →
      p.nextTick = some due → due ≤ p.now → p.cache.expire p.now = .ok (batch, cache) →
      CacheStep p
        { p with
          cache
          nextTick := some (due + cache.timeout.nanos)
          caching := .handOver batch }
  | failTick {due : Instant} {cause : TimeOverflow} : p.caching = .ready →
      p.nextTick = some due → due ≤ p.now → p.cache.expire p.now = .error cause →
      CacheStep p (p.stop .cache .failed)
  | flush {due : Instant} : p.caching = .ready → p.nextTick = some due →
      p.flushRequested = true →
      CacheStep p
        { p with
          cache := p.cache.drain.2
          flushRequested := false
          caching := .handOver p.cache.drain.1 }
  | finish {due : Instant} : p.caching = .ready → p.nextTick = some due → p.raw.closed = true →
      p.raw.queue = [] → p.cache.drain.1 = [] →
      CacheStep p ({ p with cache := p.cache.drain.2 }.stop .cache .finished)
  | drain {due : Instant} : p.caching = .ready → p.nextTick = some due → p.raw.closed = true →
      p.raw.queue = [] → p.cache.drain.1 ≠ [] →
      CacheStep p { p with cache := p.cache.drain.2, caching := .parting p.cache.drain.1 }
  | send {batch : Batch} : p.caching = .holding batch → p.evicted.HasRoom →
      CacheStep p { p with caching := .ready, evicted := p.evicted.push batch }
  | part {batch : Batch} : p.caching = .parting batch → p.evicted.HasRoom →
      CacheStep p ({ p with evicted := p.evicted.push batch }.stop .cache .finished)
  | refuse {batch : Batch} : p.caching.items = [batch] → p.evicted.IsCut →
      CacheStep p (p.stop .cache .finished)

inductive DeduperStep (p : Pipeline) : Pipeline → Prop where
  | judge {batch out : Batch} {queue : List Batch} {deduper : Deduper} : p.deduping = .ready →
      p.evicted.queue = batch :: queue →
      p.deduper.dedup batch (p.now + p.pace) = .ok (out, deduper) →
      DeduperStep p
        { p with
          evicted := { p.evicted with queue }
          now := p.now + p.pace
          deduper
          deduping := .handOver out }
  | fail {batch : Batch} {queue : List Batch} {cause : TimeOverflow} : p.deduping = .ready →
      p.evicted.queue = batch :: queue →
      p.deduper.dedup batch (p.now + p.pace) = .error cause →
      DeduperStep p
        ({ p with evicted := { p.evicted with queue }, now := p.now + p.pace }.stop
          .deduper .failed)
  | finish : p.deduping = .ready → p.evicted.queue = [] → p.evicted.closed = true →
      DeduperStep p (p.stop .deduper .finished)
  | send {batch : Batch} : p.deduping.items = [batch] → p.deduped.HasRoom →
      DeduperStep p { p with deduping := .ready, deduped := p.deduped.push batch }
  | refuse {batch : Batch} : p.deduping.items = [batch] → p.deduped.IsCut →
      DeduperStep p (p.stop .deduper .finished)

inductive DecoratorStep (p : Pipeline) : Pipeline → Prop where
  | decorate {batch : Batch} {queue : List Batch} : p.decorating = .ready →
      p.deduped.queue = batch :: queue →
      DecoratorStep p
        { p with
          deduped := { p.deduped with queue }
          decorating := .holding (p.decorator.decorateAll batch) }
  | finish : p.decorating = .ready → p.deduped.queue = [] → p.deduped.closed = true →
      DecoratorStep p (p.stop .decorator .finished)
  | send {batch : Batch} : p.decorating.items = [batch] → p.decorated.HasRoom →
      DecoratorStep p { p with decorating := .ready, decorated := p.decorated.push batch }
  | refuse {batch : Batch} : p.decorating.items = [batch] → p.decorated.IsCut →
      DecoratorStep p (p.stop .decorator .finished)

inductive ExportStep (p : Pipeline) : Pipeline → Prop where
  | export {batch : Batch} {queue : List Batch} : p.exporting = .ready →
      p.decorated.queue = batch :: queue →
      p.exporter.failsAt ≠ some p.exporter.batches.length →
      ExportStep p
        { p with
          decorated := { p.decorated with queue }
          exporter := { p.exporter with batches := p.exporter.batches ++ [batch] } }
  | fail {batch : Batch} {queue : List Batch} : p.exporting = .ready →
      p.decorated.queue = batch :: queue →
      p.exporter.failsAt = some p.exporter.batches.length →
      ExportStep p ({ p with decorated := { p.decorated with queue } }.stop .export .failed)
  | finish : p.exporting = .ready → p.decorated.queue = [] → p.decorated.closed = true →
      ExportStep p (p.stop .export .finished)

/-- What the outside world does: the results that arrive, and the state it leaves. -/
inductive WorldStep (p : Pipeline) : List (Except Intake.ReadError Bytes) → Pipeline → Prop where
  | arrive {result : Except Intake.ReadError Bytes} : p.sourceClosed = false →
      WorldStep p [result] { p with source := p.source ++ [result] }
  | closeSource : WorldStep p [] { p with sourceClosed := true }
  | requestFlush : WorldStep p [] { p with flushRequested := true }
  | wait {nanos : Nat} : WorldStep p [] { p with now := p.now + nanos }
  | cancel : WorldStep p [] { p with cancelled := true }

/-- A step of the pipeline: what arrives at the source in it, what the intake
sends, and the state it leaves. -/
inductive Step (p : Pipeline) :
    List (Except Intake.ReadError Bytes) → List RawRecord → Pipeline → Prop where
  | intake {sent : List RawRecord} {q : Pipeline} : IntakeStep p sent q → Step p [] sent q
  | cache {q : Pipeline} : CacheStep p q → Step p [] [] q
  | deduper {q : Pipeline} : DeduperStep p q → Step p [] [] q
  | decorator {q : Pipeline} : DecoratorStep p q → Step p [] [] q
  | export {q : Pipeline} : ExportStep p q → Step p [] [] q
  | quit {stage : Stage} : p.cancelled = true → p.ending? stage = none →
      Step p [] [] (p.stop stage .finished)
  | world {arrived : List (Except Intake.ReadError Bytes)} {q : Pipeline} :
      WorldStep p arrived q → Step p arrived [] q

/-! ## Actions are steps -/

variable {p q : Pipeline}

theorem intakeStep_of_read (h : p.read = some q) : IntakeStep p [] q := by
  unfold read at h
  split at h
  · next hready hrested =>
    split at h
    · next hsource =>
      split at h
      · next hclosed =>
        obtain rfl := Option.some.inj h
        exact .finish hready hrested hsource hclosed
      · cases h
    · next result source hsource =>
      split at h
      · next hresult =>
        obtain rfl := Option.some.inj h
        exact .readClosed hready hrested hsource hresult
      · next hresult =>
        obtain rfl := Option.some.inj h
        exact .readFailed hready hrested hsource hresult
      · next hresult =>
        obtain rfl := Option.some.inj h
        exact .readMalformed hready hrested hsource hresult
      · next r hresult =>
        have hstep := IntakeStep.readRecord hready hrested hsource hresult
        cases hfull : r.metrics.mapFull <;> simp only [hfull] at h hstep <;>
          obtain rfl := Option.some.inj h <;> exact hstep
  · cases h

theorem sendHeld_cases {α : Type} {phase : Phase α} {c : Channel α}
    {accepted : Channel α → Pipeline} {refused : Pipeline}
    (h : sendHeld phase c accepted refused = some q) :
    ∃ item, phase.items = [item] ∧
      ((c.HasRoom ∧ q = accepted (c.push item)) ∨ (c.IsCut ∧ q = refused)) := by
  have hreply : ∀ item,
      sendHeld (.holding item) c accepted refused = some q →
      (c.HasRoom ∧ q = accepted (c.push item)) ∨ (c.IsCut ∧ q = refused) := by
    intro item h
    simp only [sendHeld] at h
    split at h
    · next hsend =>
      obtain ⟨hroom, rfl⟩ := Channel.send_eq_accepted_iff.1 hsend
      exact .inl ⟨hroom, (Option.some.inj h).symm⟩
    · cases h
    · next hsend =>
      exact .inr ⟨Channel.send_eq_refused_iff.1 hsend, (Option.some.inj h).symm⟩
  cases phase with
  | ready => cases h
  | holding item => exact ⟨item, rfl, hreply item h⟩
  | parting item => exact ⟨item, rfl, hreply item h⟩
  | ended e => cases h

theorem sent_of_hasRoom {r : RawRecord} (hitems : p.intake.items = [r]) (hroom : p.raw.HasRoom) :
    Act.sent p (.stage .sendRaw) = [r] := by
  have hsend : p.raw.send r = .accepted (p.raw.push r) :=
    Channel.send_eq_accepted_iff.2 ⟨hroom, rfl⟩
  cases hintake : p.intake <;> simp_all [Act.sent]

theorem sent_of_isCut {r : RawRecord} (hitems : p.intake.items = [r]) (hcut : p.raw.IsCut) :
    Act.sent p (.stage .sendRaw) = [] := by
  have hsend : p.raw.send r = .refused := Channel.send_eq_refused_iff.2 hcut
  cases hintake : p.intake <;> simp_all [Act.sent]

theorem intakeStep_of_sendRaw (h : p.sendRaw = some q) :
    IntakeStep p (Act.sent p (.stage .sendRaw)) q := by
  obtain ⟨r, hitems, ⟨hroom, rfl⟩ | ⟨hcut, rfl⟩⟩ := sendHeld_cases h
  · rw [sent_of_hasRoom hitems hroom]
    exact .send hitems hroom
  · rw [sent_of_isCut hitems hcut]
    exact .refuse hitems hcut

/-- A cache that waits for something to do hands the batch over. -/
theorem evict_eq {batch : Batch} (hready : p.caching = .ready) :
    p.evict batch = { p with caching := .handOver batch } := by
  unfold evict Phase.handOver
  split
  · rw [← hready]
  · rfl

theorem cacheStep_of_startTimer (h : p.startTimer = some q) : CacheStep p q := by
  unfold startTimer at h
  split at h
  · next hready hnone =>
    split at h
    · next hzero =>
      obtain rfl := Option.some.inj h
      exact .failTimer hready hnone (.inl hzero)
    · next hpositive =>
      split at h
      · next hdue =>
        obtain rfl := Option.some.inj h
        exact .startTimer hready hnone hpositive hdue
      · next cause hover =>
        obtain rfl := Option.some.inj h
        exact .failTimer hready hnone (.inr ⟨cause, hover⟩)
  · cases h

theorem cacheStep_of_insert (h : p.insert = some q) : CacheStep p q := by
  unfold insert at h
  split at h
  · next due r raw hready hdue hreceive =>
    obtain ⟨queue, hqueue, rfl⟩ := Channel.receive?_eq_some_iff.1 hreceive
    simp only [Option.some.injEq] at h
    subst h
    rw [evict_eq]
    · exact .insert hready hdue hqueue
    · exact hready
  · cases h

theorem cacheStep_of_skipTicks (h : p.skipTicks = some q) : CacheStep p q := by
  unfold skipTicks at h
  split at h
  · next due cache hready hdue hexpire =>
    split at h
    · cases h
    · next hnow =>
      obtain rfl := Option.some.inj h
      exact .skipTicks hready hdue (Nat.not_lt.1 hnow) hexpire
  · cases h

theorem cacheStep_of_tick (h : p.tick = some q) : CacheStep p q := by
  unfold tick at h
  split at h
  · next due hready hdue =>
    split at h
    · cases h
    · next hnow =>
      split at h
      · next batch cache hexpire =>
        obtain rfl := Option.some.inj h
        rw [evict_eq]
        · exact .tick hready hdue (Nat.not_lt.1 hnow) hexpire
        · exact hready
      · next hexpire =>
        obtain rfl := Option.some.inj h
        exact .failTick hready hdue (Nat.not_lt.1 hnow) hexpire
  · cases h

theorem cacheStep_of_flush (h : p.flush = some q) : CacheStep p q := by
  unfold flush at h
  split at h
  · next due hready hdue hrequested =>
    obtain rfl := Option.some.inj h
    rw [evict_eq]
    · exact .flush hready hdue hrequested
    · exact hready
  · cases h

theorem cacheStep_of_drain (h : p.drain = some q) : CacheStep p q := by
  unfold drain at h
  split at h
  · next due hready hdue =>
    split at h
    · next hexhausted =>
      obtain ⟨hclosed, hqueue⟩ := Channel.isExhausted_iff.1 hexhausted
      obtain rfl := Option.some.inj h
      split
      · next hempty => exact .finish hready hdue hclosed hqueue (List.isEmpty_iff.1 hempty)
      · next hsome =>
        exact .drain hready hdue hclosed hqueue fun hempty => hsome (List.isEmpty_iff.2 hempty)
    · cases h
  · cases h

theorem cacheStep_of_sendEvicted (h : p.sendEvicted = some q) : CacheStep p q := by
  unfold sendEvicted at h
  split at h
  · next batch hholding =>
    split at h
    · next hsend =>
      obtain ⟨hroom, rfl⟩ := Channel.send_eq_accepted_iff.1 hsend
      obtain rfl := Option.some.inj h
      exact .send hholding hroom
    · cases h
    · next hsend =>
      obtain rfl := Option.some.inj h
      exact .refuse (by rw [hholding]; rfl) (Channel.send_eq_refused_iff.1 hsend)
  · next batch hparting =>
    split at h
    · next hsend =>
      obtain ⟨hroom, rfl⟩ := Channel.send_eq_accepted_iff.1 hsend
      obtain rfl := Option.some.inj h
      exact .part hparting hroom
    · cases h
    · next hsend =>
      obtain rfl := Option.some.inj h
      exact .refuse (by rw [hparting]; rfl) (Channel.send_eq_refused_iff.1 hsend)
  · cases h

theorem deduperStep_of_dedup (h : p.dedup = some q) : DeduperStep p q := by
  unfold dedup at h
  split at h
  · next batch evicted hready hreceive =>
    obtain ⟨queue, hqueue, rfl⟩ := Channel.receive?_eq_some_iff.1 hreceive
    dsimp only at h
    split at h
    · next hjudge =>
      obtain rfl := Option.some.inj h
      exact .judge hready hqueue hjudge
    · next hjudge =>
      obtain rfl := Option.some.inj h
      exact .fail hready hqueue hjudge
  · next hready hreceive =>
    split at h
    · next hclosed =>
      obtain rfl := Option.some.inj h
      exact .finish hready (Channel.receive?_eq_none_iff.1 hreceive) hclosed
    · cases h
  · cases h

theorem deduperStep_of_sendDeduped (h : p.sendDeduped = some q) : DeduperStep p q := by
  obtain ⟨batch, hitems, ⟨hroom, rfl⟩ | ⟨hcut, rfl⟩⟩ := sendHeld_cases h
  · exact .send hitems hroom
  · exact .refuse hitems hcut

theorem decoratorStep_of_decorate (h : p.decorate = some q) : DecoratorStep p q := by
  unfold decorate at h
  split at h
  · next batch deduped hready hreceive =>
    obtain ⟨queue, hqueue, rfl⟩ := Channel.receive?_eq_some_iff.1 hreceive
    obtain rfl := Option.some.inj h
    exact .decorate hready hqueue
  · next hready hreceive =>
    split at h
    · next hclosed =>
      obtain rfl := Option.some.inj h
      exact .finish hready (Channel.receive?_eq_none_iff.1 hreceive) hclosed
    · cases h
  · cases h

theorem decoratorStep_of_sendDecorated (h : p.sendDecorated = some q) : DecoratorStep p q := by
  obtain ⟨batch, hitems, ⟨hroom, rfl⟩ | ⟨hcut, rfl⟩⟩ := sendHeld_cases h
  · exact .send hitems hroom
  · exact .refuse hitems hcut

theorem exportStep_of_export (h : p.export = some q) : ExportStep p q := by
  unfold «export» at h
  split at h
  · next batch decorated hready hreceive =>
    obtain ⟨queue, hqueue, rfl⟩ := Channel.receive?_eq_some_iff.1 hreceive
    dsimp only at h
    split at h
    · next hfails =>
      obtain rfl := Option.some.inj h
      exact .fail hready hqueue hfails
    · next hfails =>
      obtain rfl := Option.some.inj h
      exact .export hready hqueue hfails
  · next hready hreceive =>
    split at h
    · next hclosed =>
      obtain rfl := Option.some.inj h
      exact .finish hready (Channel.receive?_eq_none_iff.1 hreceive) hclosed
    · cases h
  · cases h

theorem quit_eq_some {stage : Stage} (h : p.quit stage = some q) :
    p.cancelled = true ∧ p.ending? stage = none ∧ q = p.stop stage .finished := by
  unfold quit at h
  split at h
  · next hquits =>
    obtain ⟨hcancelled, hruns⟩ := Bool.and_eq_true_iff.1 hquits
    refine ⟨hcancelled, Option.isNone_iff_eq_none.1 hruns, ?_⟩
    split at h
    · exact (Option.some.inj h).symm
    · cases h
    · exact (Option.some.inj h).symm
  · cases h

theorem step_of_quit {stage : Stage} (h : p.quit stage = some q) : Step p [] [] q := by
  obtain ⟨hcancelled, hruns, rfl⟩ := quit_eq_some h
  exact .quit hcancelled hruns

/-- Every act is a step. -/
theorem step_of_apply {act : Act} (h : act.apply p = some q) :
    Step p act.arrived (act.sent p) q := by
  cases act with
  | stage action =>
    cases action with
    | quit stage => exact step_of_quit h
    | read => exact .intake (intakeStep_of_read h)
    | sendRaw => exact .intake (intakeStep_of_sendRaw h)
    | startTimer => exact .cache (cacheStep_of_startTimer h)
    | insert => exact .cache (cacheStep_of_insert h)
    | skipTicks => exact .cache (cacheStep_of_skipTicks h)
    | tick => exact .cache (cacheStep_of_tick h)
    | flush => exact .cache (cacheStep_of_flush h)
    | drain => exact .cache (cacheStep_of_drain h)
    | sendEvicted => exact .cache (cacheStep_of_sendEvicted h)
    | dedup => exact .deduper (deduperStep_of_dedup h)
    | sendDeduped => exact .deduper (deduperStep_of_sendDeduped h)
    | decorate => exact .decorator (decoratorStep_of_decorate h)
    | sendDecorated => exact .decorator (decoratorStep_of_sendDecorated h)
    | «export» => exact .export (exportStep_of_export h)
  | arrive result =>
    simp only [Act.apply] at h
    split at h
    · cases h
    · next hopen =>
      obtain rfl := Option.some.inj h
      exact .world (.arrive (Bool.eq_false_iff.2 hopen))
  | closeSource =>
    obtain rfl := Option.some.inj h
    exact .world .closeSource
  | requestFlush =>
    obtain rfl := Option.some.inj h
    exact .world .requestFlush
  | wait nanos =>
    obtain rfl := Option.some.inj h
    exact .world .wait
  | cancel =>
    obtain rfl := Option.some.inj h
    exact .world .cancel

end Flowmeter.Pipeline
