-- SUMMARY: Batches go from the cache to the exporter in order: each stage passes on what it makes of a prefix of what the stage before it made.
import Flowmeter.Proofs.Dedup.Run
import Flowmeter.Proofs.Pipeline.Batches
import Flowmeter.Proofs.Pipeline.Run

/-!
# The passage of batches

Between two stages nothing overtakes. What the first has made has been taken by
the second, then comes what is in the channel, then what the first still holds;
only when a stage ends may some of it get lost, and then nothing comes after it.
So what the second has taken is a prefix of what the first has made, whatever is
cancelled and whoever fails.

A run is therefore told by five lists: the batches of the cache, what the
deduper took and made of it, what the decorator took, and what was given to the
exporter.
-/

namespace Flowmeter

/-! ## One channel -/

/-- `received` has been taken of what the sender has made, in the order in which it was
made. As long as both stages run, the rest is in the channel or with the sender. -/
structure Channel.Carries {α : Type} (c : Channel α) (sender : Phase α)
    (made received : List α) : Prop where
  received_prefix : received ++ c.queue <+: made
  complete : sender.hasEnded = false → c.dropped = false →
    made = received ++ c.queue ++ sender.items
  lost : c.dropped = true → c.queue = []

namespace Channel.Carries

variable {α : Type} {c : Channel α} {sender sender' : Phase α} {made received : List α}

theorem empty (capacity : Nat) {sender : Phase α} (hitems : sender.items = []) :
    (Channel.empty capacity).Carries sender [] [] where
  received_prefix := List.prefix_refl []
  complete _ _ := by rw [hitems]; rfl
  lost _ := rfl

/-- A sender that holds nothing makes something more. -/
theorem make (h : c.Carries sender made received) (hready : sender = .ready) (more : List α)
    (hitems : sender'.items = more) : c.Carries sender' (made ++ more) received where
  received_prefix := h.received_prefix.trans (List.prefix_append made more)
  complete _ hdropped := by
    subst hready
    rw [hitems, h.complete rfl hdropped, Phase.items_ready, List.append_nil]
  lost := h.lost

/-- The sender puts what it holds in the channel, and may end with that. -/
theorem push (h : c.Carries sender made received) {item : α} (hitems : sender.items = [item])
    (hdropped : c.dropped = false) (hitems' : sender'.items = []) :
    (c.push item).Carries sender' made received := by
  have hmade : made = received ++ (c.push item).queue := by
    rw [h.complete (Phase.hasEnded_of_items hitems) hdropped, hitems, Channel.push,
      List.append_assoc]
  exact {
    received_prefix := hmade ▸ List.prefix_refl _
    complete _ _ := by rw [hitems', List.append_nil, ← hmade]
    lost hlost := by
      rw [Channel.push] at hlost
      rw [hdropped] at hlost
      cases hlost }

theorem take (h : c.Carries sender made received) {item : α} {queue : List α}
    (hqueue : c.queue = item :: queue) :
    { c with queue }.Carries sender made (received ++ [item]) where
  received_prefix := by
    have hprefix := h.received_prefix
    rw [hqueue, List.append_cons] at hprefix
    exact hprefix
  complete hruns hdropped := by
    have hmade := h.complete hruns hdropped
    rw [hqueue, List.append_cons received] at hmade
    exact hmade
  lost hdropped := by
    rw [h.lost hdropped] at hqueue
    cases hqueue

theorem senderEnds (h : c.Carries sender made received) (e : Ending) :
    c.close.Carries (.ended e) made received where
  received_prefix := h.received_prefix
  complete hruns := by cases hruns
  lost := h.lost

/-- With the receiver goes what is in the channel. -/
theorem receiverEnds (h : c.Carries sender made received) : c.drop.Carries sender made received where
  received_prefix := by
    rw [Channel.drop, List.append_nil]
    exact (List.prefix_append _ _).trans h.received_prefix
  complete _ hdropped := by cases hdropped
  lost _ := rfl

end Channel.Carries

/-! ## What the deduper makes of one more batch -/

theorem Dedup.dedupAll_append_singleton {d d₁ d₂ : Deduper} {feeds : List Feed} {f : Feed}
    {batches : List Batch} {out : Batch} (hfeeds : dedupAll d feeds = .ok (batches, d₁))
    (hf : d₁.dedup f.batch f.now = .ok (out, d₂)) :
    dedupAll d (feeds ++ [f]) = .ok (batches ++ [out], d₂) := by
  induction feeds generalizing d batches with
  | nil =>
    obtain ⟨rfl, rfl⟩ := Prod.mk.inj (Except.ok.inj hfeeds)
    exact bind_eq_ok.2 ⟨_, hf, rfl⟩
  | cons g feeds ih =>
    obtain ⟨⟨batch, d₃⟩, hg, h⟩ := bind_eq_ok.1 hfeeds
    obtain ⟨⟨later, d₄⟩, hlater, h⟩ := bind_eq_ok.1 h
    obtain ⟨rfl, rfl⟩ := Prod.mk.inj (Except.ok.inj h)
    exact bind_eq_ok.2 ⟨_, hg, bind_eq_ok.2 ⟨_, ih hlater, rfl⟩⟩

namespace Pipeline

open Dedup

/-! ## Notes of a run -/

/-- The batch that an act gives to the exporter, whether it takes it or fails at it. -/
def Act.given (p : Pipeline) : Act → List Batch
  | .stage .export => p.decorated.queue.take 1
  | _ => []

namespace Trace

/-- What `note` says of the steps of a run, one after the other. -/
def noted {α : Type} (note : Pipeline → Act → Pipeline → List α) : Trace → List Act → List α
  | _, [] => []
  | t, act :: acts =>
    match t.next act with
    | none => []
    | some t' => note t.pipeline act t'.pipeline ++ noted note t' acts

/-- The batches that the cache comes forward with. -/
def emitted : Trace → List Act → List Batch :=
  noted fun p _ q => Phase.gained p.caching q.caching

/-- The batches that are given to the exporter. -/
def given : Trace → List Act → List Batch := noted fun p act _ => act.given p

theorem noted_cons {α : Type} {note : Pipeline → Act → Pipeline → List α} {t t' : Trace}
    {act : Act} {acts : List Act} (h : t.next act = some t') :
    t.noted note (act :: acts) = note t.pipeline act t'.pipeline ++ t'.noted note acts := by
  rw [noted, h]

theorem noted_append_singleton {α : Type} {note : Pipeline → Act → Pipeline → List α}
    {t t' t'' : Trace} {act : Act} {acts : List Act} (hrun : t.run acts = some t')
    (h : t'.next act = some t'') :
    t.noted note (acts ++ [act])
      = t.noted note acts ++ note t'.pipeline act t''.pipeline := by
  induction acts generalizing t with
  | nil =>
    obtain rfl := Option.some.inj hrun
    rw [List.nil_append, noted_cons h]
    exact List.append_nil _
  | cons first acts ih =>
    obtain ⟨t₁, hnext, hlater⟩ := run_cons hrun
    rw [List.cons_append, noted_cons hnext, noted_cons hnext, ih hlater, List.append_assoc]

end Trace

/-! ## The passage -/

/-- What has gone from stage to stage. -/
structure Passage where
  /-- The batches of the cache. -/
  emitted : List Batch
  /-- What the deduper has taken, and when. -/
  judged : List Feed
  /-- What the deduper has made of it. -/
  outputs : List Batch
  /-- What the decorator has taken. -/
  decorated : List Batch
  /-- What has been given to the exporter. -/
  given : List Batch

variable {setup : Setup} {p q : Pipeline} {s : Passage}

/-- The passage up to a state. -/
structure Passes (setup : Setup) (p : Pipeline) (s : Passage) : Prop where
  evicted : p.evicted.Carries p.caching s.emitted (s.judged.map Feed.batch)
  judges : dedupAll setup.deduper s.judged = .ok (s.outputs, p.deduper)
  ordered : Ordered s.judged
  judged_le : ∀ f ∈ s.judged, f.now ≤ p.now
  deduped : p.deduped.Carries p.deduping (s.outputs.filter fun b => !b.isEmpty) s.decorated
  decorator_eq : p.decorator = setup.decorator
  decorated :
    p.decorated.Carries p.decorating (s.decorated.map setup.decorator.decorateAll) s.given
  exports : p.exporter.batches <+: s.given
  exports_all : p.exporting.hasEnded = false → p.exporter.batches = s.given

theorem Passes.start (setup : Setup) (now : Instant) :
    Passes setup (Pipeline.start setup now) ⟨[], [], [], [], []⟩ := by
  have hitems : ∀ stage, (if stage ∈ setup.stages then .ready else .ended .finished :
      Phase Batch).items = [] := by
    intro stage
    split <;> rfl
  exact {
    evicted := .empty _ (hitems .cache)
    judges := rfl
    ordered := .nil
    judged_le := by simp
    deduped := .empty _ (hitems .deduper)
    decorator_eq := rfl
    decorated := .empty _ (hitems .decorator)
    exports := List.prefix_refl []
    exports_all := fun _ => rfl }

/-! ## Steps -/

theorem CacheStep.passes (h : CacheStep p q) (hp : Passes setup p s) :
    Passes setup q { s with emitted := s.emitted ++ Phase.gained p.caching q.caching } := by
  have hmake : ∀ {phase : Phase Batch}, p.caching = .ready →
      p.evicted.Carries phase (s.emitted ++ Phase.gained p.caching phase)
        (s.judged.map Feed.batch) := by
    intro phase hready
    exact hp.evicted.make hready _ (by rw [hready, Phase.gained_ready])
  cases h with
  | startTimer => simpa using { hp with }
  | failTimer => simpa [stop] using { hp with evicted := hp.evicted.senderEnds .failed }
  | insert hready =>
    exact { hp with
      evicted := hmake hready
      judged_le := fun f hf => Nat.le_trans (hp.judged_le f hf) (Nat.le_add_right _ _) }
  | skipTicks => simpa using { hp with }
  | tick hready => exact { hp with evicted := hmake hready }
  | failTick => simpa [stop] using { hp with evicted := hp.evicted.senderEnds .failed }
  | flush hready => exact { hp with evicted := hmake hready }
  | finish => simpa [stop] using { hp with evicted := hp.evicted.senderEnds .finished }
  | drain hready => exact { hp with evicted := hmake hready }
  | @send batch hholding hroom =>
    have hitems : p.caching.items = [batch] := by rw [hholding]; rfl
    simpa [Phase.gained_of_items hitems] using
      { hp with evicted := hp.evicted.push hitems hroom.2.1 rfl }
  | @part batch hparting hroom =>
    have hitems : p.caching.items = [batch] := by rw [hparting]; rfl
    have hpushed : (p.evicted.push batch).Carries .ready s.emitted (s.judged.map Feed.batch) :=
      hp.evicted.push hitems hroom.2.1 rfl
    simpa [Phase.gained_of_items hitems, stop] using
      { hp with evicted := hpushed.senderEnds .finished }
  | refuse => simpa [stop] using { hp with evicted := hp.evicted.senderEnds .finished }

theorem DeduperStep.passes (h : DeduperStep p q) (hp : Passes setup p s) :
    ∃ judged outputs, Passes setup q { s with judged, outputs } := by
  cases h with
  | @judge batch out queue deduper hready hqueue hdedup =>
    have hlater : ∀ f ∈ s.judged, f.now ≤ p.now + p.pace :=
      fun f hf => Nat.le_trans (hp.judged_le f hf) (Nat.le_add_right _ _)
    refine ⟨s.judged ++ [⟨batch, p.now + p.pace⟩], s.outputs ++ [out], { hp with
      evicted := ?_
      judges := dedupAll_append_singleton hp.judges hdedup
      ordered := ?_
      judged_le := ?_
      deduped := ?_ }⟩
    · rw [List.map_append]
      exact hp.evicted.take hqueue
    · refine List.pairwise_append.2 ⟨hp.ordered, List.pairwise_singleton _ _, fun f hf g hg => ?_⟩
      obtain rfl := List.mem_singleton.1 hg
      exact hlater f hf
    · intro f hf
      rcases List.mem_append.1 hf with hf | hf
      · exact hlater f hf
      · obtain rfl := List.mem_singleton.1 hf
        exact Nat.le_refl _
    · rw [List.filter_append]
      exact hp.deduped.make hready _ (Phase.items_handOver out)
  | fail =>
    refine ⟨s.judged, s.outputs, { hp with
      evicted := hp.evicted.receiverEnds
      judged_le := ?_
      deduped := hp.deduped.senderEnds .failed }⟩
    exact fun f hf => Nat.le_trans (hp.judged_le f hf) (Nat.le_add_right _ _)
  | finish =>
    exact ⟨s.judged, s.outputs, { hp with
      evicted := hp.evicted.receiverEnds
      deduped := hp.deduped.senderEnds .finished }⟩
  | send hitems hroom =>
    exact ⟨s.judged, s.outputs, { hp with deduped := hp.deduped.push hitems hroom.2.1 rfl }⟩
  | refuse =>
    exact ⟨s.judged, s.outputs, { hp with
      evicted := hp.evicted.receiverEnds
      deduped := hp.deduped.senderEnds .finished }⟩

theorem DecoratorStep.passes (h : DecoratorStep p q) (hp : Passes setup p s) :
    ∃ decorated, Passes setup q { s with decorated } := by
  cases h with
  | @decorate batch queue hready hqueue =>
    refine ⟨s.decorated ++ [batch], { hp with
      deduped := hp.deduped.take hqueue
      decorated := ?_ }⟩
    rw [List.map_append]
    refine hp.decorated.make hready _ ?_
    rw [hp.decorator_eq]
    rfl
  | finish =>
    exact ⟨s.decorated, { hp with
      deduped := hp.deduped.receiverEnds
      decorated := hp.decorated.senderEnds .finished }⟩
  | send hitems hroom =>
    exact ⟨s.decorated, { hp with decorated := hp.decorated.push hitems hroom.2.1 rfl }⟩
  | refuse =>
    exact ⟨s.decorated, { hp with
      deduped := hp.deduped.receiverEnds
      decorated := hp.decorated.senderEnds .finished }⟩

theorem ExportStep.passes (h : ExportStep p q) (hp : Passes setup p s) :
    Passes setup q { s with given := s.given ++ p.decorated.queue.take 1 } := by
  cases h with
  | @«export» batch queue hready hqueue =>
    have hall : p.exporter.batches = s.given := hp.exports_all (by rw [hready]; rfl)
    rw [hqueue]
    exact { hp with
      decorated := hp.decorated.take hqueue
      exports := by rw [hall]; exact List.prefix_refl _
      exports_all := fun _ => by rw [hall]; rfl }
  | @fail batch queue hready hqueue =>
    rw [hqueue]
    exact { hp with
      decorated := (hp.decorated.take hqueue).receiverEnds
      exports := hp.exports.trans (List.prefix_append _ _)
      exports_all := fun hruns => by cases hruns }
  | finish hready hqueue =>
    rw [hqueue, List.take_nil, List.append_nil]
    exact { hp with
      decorated := hp.decorated.receiverEnds
      exports_all := fun hruns => by cases hruns }

theorem IntakeStep.passes {sent : List RawRecord} (h : IntakeStep p sent q)
    (hp : Passes setup p s) : Passes setup q s := by
  cases h <;> exact { hp with }

theorem WorldStep.passes {arrived : List (Except Intake.ReadError Bytes)}
    (h : WorldStep p arrived q) (hp : Passes setup p s) : Passes setup q s := by
  cases h with
  | wait =>
    exact { hp with
      judged_le := fun f hf => Nat.le_trans (hp.judged_le f hf) (Nat.le_add_right _ _) }
  | _ => exact { hp with }

/-- A stage that quits loses what it holds and what is before it. -/
theorem Passes.quit (hp : Passes setup p s) (stage : Stage) (e : Ending) :
    Passes setup (p.stop stage e) s := by
  cases stage with
  | intake => exact { hp with }
  | cache => exact { hp with evicted := hp.evicted.senderEnds e }
  | deduper =>
    exact { hp with
      evicted := hp.evicted.receiverEnds
      deduped := hp.deduped.senderEnds e }
  | decorator =>
    exact { hp with
      deduped := hp.deduped.receiverEnds
      decorated := hp.decorated.senderEnds e }
  | «export» =>
    exact { hp with
      decorated := hp.decorated.receiverEnds
      exports_all := fun hruns => by cases hruns }

/-! ## Runs -/

theorem IntakeStep.caching_eq {sent : List RawRecord} (h : IntakeStep p sent q) :
    q.caching = p.caching := by
  cases h <;> rfl

theorem DeduperStep.caching_eq (h : DeduperStep p q) : q.caching = p.caching := by
  cases h <;> rfl

theorem DecoratorStep.caching_eq (h : DecoratorStep p q) : q.caching = p.caching := by
  cases h <;> rfl

theorem ExportStep.caching_eq (h : ExportStep p q) : q.caching = p.caching := by
  cases h <;> rfl

theorem WorldStep.caching_eq {arrived : List (Except Intake.ReadError Bytes)}
    (h : WorldStep p arrived q) : q.caching = p.caching := by
  cases h <;> rfl

theorem gained_quit (p : Pipeline) (stage : Stage) (e : Ending) :
    Phase.gained p.caching (p.stop stage e).caching = [] := by
  cases stage <;> simp [stop]

/-- The passage goes on with what the act notes. -/
def GoesOn (setup : Setup) (p q : Pipeline) (s : Passage) (given : List Batch) : Prop :=
  ∃ s', Passes setup q s' ∧ s'.emitted = s.emitted ++ Phase.gained p.caching q.caching ∧
    s'.given = s.given ++ given

/-- Only the cache comes forward with batches, and only the export stage gives any away. -/
theorem goesOn_of_caching_eq {s' : Passage} (hq : Passes setup q s')
    (hcaching : q.caching = p.caching) (hemitted : s'.emitted = s.emitted)
    (hgiven : s'.given = s.given) : GoesOn setup p q s [] := by
  refine ⟨s', hq, ?_, ?_⟩
  · rw [hcaching, Phase.gained_self, List.append_nil, hemitted]
  · rw [List.append_nil, hgiven]

theorem Passes.apply {act : Act} (h : act.apply p = some q) (hp : Passes setup p s) :
    GoesOn setup p q s (act.given p) := by
  have hintake : ∀ {sent}, IntakeStep p sent q → GoesOn setup p q s [] :=
    fun h => goesOn_of_caching_eq (h.passes hp) h.caching_eq rfl rfl
  have hcache : CacheStep p q → GoesOn setup p q s [] :=
    fun h => ⟨_, h.passes hp, rfl, (List.append_nil _).symm⟩
  have hdeduper : DeduperStep p q → GoesOn setup p q s [] := by
    intro h
    obtain ⟨judged, outputs, hq⟩ := h.passes hp
    exact goesOn_of_caching_eq hq h.caching_eq rfl rfl
  have hdecorator : DecoratorStep p q → GoesOn setup p q s [] := by
    intro h
    obtain ⟨decorated, hq⟩ := h.passes hp
    exact goesOn_of_caching_eq hq h.caching_eq rfl rfl
  have hworld : ∀ {arrived}, WorldStep p arrived q → GoesOn setup p q s [] :=
    fun h => goesOn_of_caching_eq (h.passes hp) h.caching_eq rfl rfl
  cases act with
  | stage action =>
    cases action with
    | quit stage =>
      obtain ⟨-, -, rfl⟩ := quit_eq_some h
      refine ⟨s, hp.quit stage .finished, ?_, (List.append_nil _).symm⟩
      rw [gained_quit, List.append_nil]
    | read => exact hintake (intakeStep_of_read h)
    | sendRaw => exact hintake (intakeStep_of_sendRaw h)
    | startTimer => exact hcache (cacheStep_of_startTimer h)
    | insert => exact hcache (cacheStep_of_insert h)
    | skipTicks => exact hcache (cacheStep_of_skipTicks h)
    | tick => exact hcache (cacheStep_of_tick h)
    | flush => exact hcache (cacheStep_of_flush h)
    | drain => exact hcache (cacheStep_of_drain h)
    | sendEvicted => exact hcache (cacheStep_of_sendEvicted h)
    | dedup => exact hdeduper (deduperStep_of_dedup h)
    | sendDeduped => exact hdeduper (deduperStep_of_sendDeduped h)
    | decorate => exact hdecorator (decoratorStep_of_decorate h)
    | sendDecorated => exact hdecorator (decoratorStep_of_sendDecorated h)
    | «export» =>
      have hexport := exportStep_of_export h
      refine ⟨_, hexport.passes hp, ?_, rfl⟩
      rw [hexport.caching_eq, Phase.gained_self, List.append_nil]
  | arrive result =>
    simp only [Act.apply] at h
    split at h
    · cases h
    · next hopen =>
      obtain rfl := Option.some.inj h
      exact hworld (.arrive (Bool.eq_false_iff.2 hopen))
  | closeSource =>
    obtain rfl := Option.some.inj h
    exact hworld .closeSource
  | requestFlush =>
    obtain rfl := Option.some.inj h
    exact hworld .requestFlush
  | wait nanos =>
    obtain rfl := Option.some.inj h
    exact hworld .wait
  | cancel =>
    obtain rfl := Option.some.inj h
    exact hworld .cancel

theorem Passes.run {t t' : Trace} {acts : List Act} (h : t.run acts = some t')
    (ht : Passes setup t.pipeline s) :
    ∃ s', Passes setup t'.pipeline s' ∧ s'.emitted = s.emitted ++ t.emitted acts ∧
      s'.given = s.given ++ t.given acts := by
  induction acts generalizing t s with
  | nil =>
    obtain rfl := Option.some.inj h
    exact ⟨s, ht, (List.append_nil _).symm, (List.append_nil _).symm⟩
  | cons act acts ih =>
    obtain ⟨t₁, hnext, hlater⟩ := Trace.run_cons h
    obtain ⟨s₁, ht₁, hemitted₁, hgiven₁⟩ := ht.apply (Trace.apply_of_next hnext)
    obtain ⟨s', ht', hemitted, hgiven⟩ := ih hlater ht₁
    refine ⟨s', ht', ?_, ?_⟩
    · rw [hemitted, hemitted₁, List.append_assoc, Trace.emitted, Trace.noted_cons hnext]
    · rw [hgiven, hgiven₁, List.append_assoc, Trace.given, Trace.noted_cons hnext]

theorem Step.wellFormed {arrived : List (Except Intake.ReadError Bytes)} {sent : List RawRecord}
    (h : Step p arrived sent q) (hp : p.cache.WellFormed) : q.cache.WellFormed := by
  cases h with
  | cache h => exact h.wellFormed hp
  | intake h => cases h <;> exact hp
  | deduper h => cases h <;> exact hp
  | decorator h => cases h <;> exact hp
  | «export» h => cases h <;> exact hp
  | @quit stage => cases stage <;> exact hp
  | world h => cases h <;> exact hp

theorem Step.isProper_gained {arrived : List (Except Intake.ReadError Bytes)}
    {sent : List RawRecord} (h : Step p arrived sent q) (hp : p.cache.WellFormed) :
    ∀ batch ∈ Phase.gained p.caching q.caching, batch.IsProper := by
  cases h with
  | cache h => exact h.isProper_gained hp
  | intake h => simp [h.caching_eq]
  | deduper h => simp [h.caching_eq]
  | decorator h => simp [h.caching_eq]
  | «export» h => simp [h.caching_eq]
  | quit => simp [gained_quit]
  | world h => simp [h.caching_eq]

/-- All batches that the cache comes forward with are proper. -/
theorem Trace.isProper_emitted {t t' : Trace} {acts : List Act} (h : t.run acts = some t')
    (ht : t.pipeline.cache.WellFormed) : ∀ batch ∈ t.emitted acts, batch.IsProper := by
  induction acts generalizing t with
  | nil => simp [emitted, noted]
  | cons act acts ih =>
    obtain ⟨t₁, hnext, hlater⟩ := run_cons h
    obtain ⟨arrived, sent, hstep, -, -⟩ := step_of_next hnext
    intro batch hbatch
    rw [emitted, noted_cons hnext, List.mem_append] at hbatch
    rcases hbatch with hbatch | hbatch
    · exact hstep.isProper_gained ht batch hbatch
    · exact ih hlater (hstep.wellFormed ht) batch hbatch

/-! ## Proper batches everywhere -/

/-- What is left of proper batches by deduplication is proper. -/
theorem isProper_of_dedupAll {d d' : Deduper} {feeds : List Feed} {batches : List Batch}
    (h : dedupAll d feeds = .ok (batches, d')) (hfeeds : ∀ f ∈ feeds, f.batch.IsProper) :
    ∀ batch ∈ batches.filter fun b => !b.isEmpty, batch.IsProper := by
  induction feeds generalizing d batches with
  | nil =>
    obtain ⟨rfl, -⟩ := Prod.mk.inj (Except.ok.inj h)
    simp
  | cons f feeds ih =>
    obtain ⟨⟨out, d₁⟩, hout, h⟩ := bind_eq_ok.1 h
    obtain ⟨⟨later, d₂⟩, hlater, h⟩ := bind_eq_ok.1 h
    obtain ⟨rfl, rfl⟩ := Prod.mk.inj (Except.ok.inj h)
    obtain ⟨hf, hfeeds⟩ := List.forall_mem_cons.1 hfeeds
    intro batch hbatch
    obtain ⟨hmem, hne⟩ := List.mem_filter.1 hbatch
    rcases List.mem_cons.1 hmem with rfl | hmem
    · exact hf.dedup hout (by simpa using hne)
    · exact ih hlater hfeeds batch (List.mem_filter.2 ⟨hmem, hne⟩)

namespace Passes

/-- What the deduper and then the decorator make of what they have taken. -/
theorem given_prefix (hp : Passes setup p s) :
    s.given ++ p.decorated.queue <+:
      (s.outputs.filter fun b => !b.isEmpty).map setup.decorator.decorateAll := by
  have hdecorated : s.decorated <+: s.outputs.filter fun b => !b.isEmpty :=
    (List.prefix_append _ _).trans hp.deduped.received_prefix
  exact hp.decorated.received_prefix.trans (hdecorated.map _)

/-- If the cache comes forward with proper batches, then all batches on the way are proper. -/
theorem isProper (hp : Passes setup p s) (hemitted : ∀ batch ∈ s.emitted, batch.IsProper) :
    (∀ batch ∈ p.evicted.queue ++ p.deduped.queue ++ p.decorated.queue, batch.IsProper) ∧
      ∀ batch ∈ s.given, batch.IsProper := by
  have hcarried : ∀ batch ∈ s.judged.map Feed.batch ++ p.evicted.queue, batch.IsProper :=
    fun batch hbatch => hemitted batch (hp.evicted.received_prefix.subset hbatch)
  have houtputs : ∀ batch ∈ s.outputs.filter fun b => !b.isEmpty, batch.IsProper :=
    isProper_of_dedupAll hp.judges fun f hf =>
      hcarried f.batch (List.mem_append_left _ (List.mem_map_of_mem hf))
  have hdecorated : ∀ batch ∈ s.given ++ p.decorated.queue, batch.IsProper := by
    intro batch hbatch
    obtain ⟨out, hout, rfl⟩ := List.mem_map.1 (hp.given_prefix.subset hbatch)
    exact (houtputs out hout).decorateAll _
  refine ⟨fun batch hbatch => ?_, fun batch hbatch => hdecorated batch (List.mem_append_left _ hbatch)⟩
  rcases List.mem_append.1 hbatch with hbatch | hbatch
  · rcases List.mem_append.1 hbatch with hbatch | hbatch
    · exact hcarried batch (List.mem_append_right _ hbatch)
    · exact houtputs batch (hp.deduped.received_prefix.subset (List.mem_append_right _ hbatch))
  · exact hdecorated batch (List.mem_append_right _ hbatch)

end Passes

end Pipeline

end Flowmeter
