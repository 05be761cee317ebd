-- SUMMARY: In an undisturbed run the stages end one behind the other, and no channel refuses or loses an item.
import Flowmeter.Proofs.Pipeline.Run

/-!
# Wiring

The four channels join the five stages in a row. Each stage ends after the one
before it, when it has taken and passed on all that there was. The cache
empties itself on the way, before it sends its last batch.
-/

namespace Flowmeter

namespace Pipeline

variable {p q : Pipeline} {arrived : List (Except Intake.ReadError Bytes)} {sent : List RawRecord}

/-- The channels join the stages, and a cache that leaves has nothing left. -/
structure Wired (p : Pipeline) : Prop where
  raw : p.raw.Joins p.intake p.caching
  evicted : p.evicted.Joins p.caching p.deduping
  deduped : p.deduped.Joins p.deduping p.decorating
  decorated : p.decorated.Joins p.decorating p.exporting
  leaving : p.caching.isLeaving = true →
    p.raw.closed = true ∧ p.raw.queue = [] ∧ p.cache.entries = []

theorem IntakeStep.wired (h : IntakeStep p sent q) (hp : p.Wired) : q.Wired := by
  cases h with
  | finish =>
    exact { hp with
      raw := hp.raw.close .finished
      leaving := fun hleaving => ⟨rfl, (hp.leaving hleaving).2⟩ }
  | readClosed =>
    exact { hp with
      raw := hp.raw.close .finished
      leaving := fun hleaving => ⟨rfl, (hp.leaving hleaving).2⟩ }
  | readFailed => exact { hp with }
  | readMalformed => exact { hp with }
  | readRecord hready => exact { hp with raw := hp.raw.goOn (by rw [hready]; rfl) rfl }
  | send hitems =>
    have hruns := Phase.hasEnded_of_items hitems
    refine { hp with
      raw := hp.raw.push hruns rfl _
      leaving := fun hleaving => ?_ }
    exact absurd (.inl (hp.leaving hleaving).1) (hp.raw.not_isCut hruns)
  | refuse hitems hcut =>
    exact absurd hcut (hp.raw.not_isCut (Phase.hasEnded_of_items hitems))

theorem CacheStep.wired (h : CacheStep p q) (hp : p.Wired) (hq : q.Undisturbed) : q.Wired := by
  cases h with
  | startTimer => exact { hp with }
  | failTimer => exact absurd hq not_undisturbed_of_failed
  | insert hready =>
    have hruns : p.caching.hasEnded = false := by rw [hready]; rfl
    exact { hp with
      raw := hp.raw.take hruns (Phase.hasEnded_handOver _) _
      evicted := hp.evicted.goOn (by rw [Phase.hasEnded_handOver, hruns]) rfl
      leaving := fun hleaving => absurd hleaving (by simp) }
  | skipTicks => exact { hp with }
  | tick hready =>
    have hruns : p.caching.hasEnded = false := by rw [hready]; rfl
    exact { hp with
      raw := hp.raw.goOn rfl (by rw [Phase.hasEnded_handOver, hruns])
      evicted := hp.evicted.goOn (by rw [Phase.hasEnded_handOver, hruns]) rfl
      leaving := fun hleaving => absurd hleaving (by simp) }
  | failTick => exact absurd hq not_undisturbed_of_failed
  | flush hready =>
    have hruns : p.caching.hasEnded = false := by rw [hready]; rfl
    exact { hp with
      raw := hp.raw.goOn rfl (by rw [Phase.hasEnded_handOver, hruns])
      evicted := hp.evicted.goOn (by rw [Phase.hasEnded_handOver, hruns]) rfl
      leaving := fun hleaving => absurd hleaving (by simp) }
  | finish hready _ hclosed =>
    exact { hp with
      raw := hp.raw.drop hclosed .finished
      evicted := hp.evicted.close .finished
      leaving := fun _ => ⟨hclosed, rfl, rfl⟩ }
  | drain hready _ hclosed hqueue =>
    have hruns : p.caching.hasEnded = false := by rw [hready]; rfl
    exact { hp with
      raw := hp.raw.goOn rfl hruns.symm
      evicted := hp.evicted.goOn hruns.symm rfl
      leaving := fun _ => ⟨hclosed, hqueue, rfl⟩ }
  | send hholding =>
    have hruns : p.caching.hasEnded = false := by rw [hholding]; rfl
    exact { hp with
      raw := hp.raw.goOn rfl hruns.symm
      evicted := hp.evicted.push hruns rfl _
      leaving := fun hleaving => absurd hleaving (by simp) }
  | part hparting =>
    -- Two joints change at once: the last batch goes out, and the cache ends.
    have hruns : p.caching.hasEnded = false := by rw [hparting]; rfl
    obtain ⟨hclosed, -, hentries⟩ := hp.leaving (by rw [hparting]; rfl)
    exact { hp with
      raw := hp.raw.drop hclosed .finished
      evicted := (hp.evicted.push hruns hruns _).close .finished
      leaving := fun _ => ⟨hclosed, rfl, hentries⟩ }
  | refuse hitems hcut =>
    exact absurd hcut (hp.evicted.not_isCut (Phase.hasEnded_of_items hitems))

theorem DeduperStep.wired (h : DeduperStep p q) (hp : p.Wired) (hq : q.Undisturbed) :
    q.Wired := by
  cases h with
  | judge hready =>
    have hruns : p.deduping.hasEnded = false := by rw [hready]; rfl
    exact { hp with
      evicted := hp.evicted.take hruns (Phase.hasEnded_handOver _) _
      deduped := hp.deduped.goOn (by rw [Phase.hasEnded_handOver, hruns]) rfl }
  | fail => exact absurd hq not_undisturbed_of_failed
  | finish _ _ hclosed =>
    exact { hp with
      evicted := hp.evicted.drop hclosed .finished
      deduped := hp.deduped.close .finished }
  | send hitems =>
    have hruns := Phase.hasEnded_of_items hitems
    exact { hp with
      evicted := hp.evicted.goOn rfl hruns.symm
      deduped := hp.deduped.push hruns rfl _ }
  | refuse hitems hcut =>
    exact absurd hcut (hp.deduped.not_isCut (Phase.hasEnded_of_items hitems))

theorem DecoratorStep.wired (h : DecoratorStep p q) (hp : p.Wired) : q.Wired := by
  cases h with
  | decorate hready =>
    have hruns : p.decorating.hasEnded = false := by rw [hready]; rfl
    exact { hp with
      deduped := hp.deduped.take hruns rfl _
      decorated := hp.decorated.goOn hruns.symm rfl }
  | finish _ _ hclosed =>
    exact { hp with
      deduped := hp.deduped.drop hclosed .finished
      decorated := hp.decorated.close .finished }
  | send hitems =>
    have hruns := Phase.hasEnded_of_items hitems
    exact { hp with
      deduped := hp.deduped.goOn rfl hruns.symm
      decorated := hp.decorated.push hruns rfl _ }
  | refuse hitems hcut =>
    exact absurd hcut (hp.decorated.not_isCut (Phase.hasEnded_of_items hitems))

theorem ExportStep.wired (h : ExportStep p q) (hp : p.Wired) (hq : q.Undisturbed) :
    q.Wired := by
  cases h with
  | «export» hready =>
    have hruns : p.exporting.hasEnded = false := by rw [hready]; rfl
    exact { hp with decorated := hp.decorated.take hruns hruns _ }
  | fail => exact absurd hq not_undisturbed_of_failed
  | finish _ _ hclosed => exact { hp with decorated := hp.decorated.drop hclosed .finished }

theorem WorldStep.wired (h : WorldStep p arrived q) (hp : p.Wired) : q.Wired := by
  cases h <;> exact { hp with }

theorem Step.wired (h : Step p arrived sent q) (hp : p.Wired) (hq : q.Undisturbed) :
    q.Wired := by
  cases h with
  | intake h => exact h.wired hp
  | cache h => exact h.wired hp hq
  | deduper h => exact h.wired hp hq
  | decorator h => exact h.wired hp
  | «export» h => exact h.wired hp hq
  | quit hcancelled => exact (hq.not_quit hcancelled).elim
  | world h => exact h.wired hp

/-! ## The start and the end -/

/-- All five stages run. -/
def Setup.IsComplete (setup : Setup) : Prop := ∀ stage, stage ∈ setup.stages

theorem start_wired {setup : Setup} (hcomplete : setup.IsComplete) (now : Instant) :
    (start setup now).Wired := by
  have hphase : ∀ (α : Type) (stage : Stage),
      (if stage ∈ setup.stages then .ready else .ended .finished : Phase α) = .ready :=
    fun _ stage => if_pos (hcomplete stage)
  simp only [start, hphase]
  exact {
    raw := .empty _ _ _ rfl rfl
    evicted := .empty _ _ _ rfl rfl
    deduped := .empty _ _ _ rfl rfl
    decorated := .empty _ _ _ rfl rfl
    leaving := fun hleaving => absurd hleaving (by simp) }

/-- All stages have come to their ends. -/
def HasEnded (p : Pipeline) : Prop := ∀ stage, (p.ending? stage).isSome = true

theorem ending?_eq (p : Pipeline) (stage : Stage) :
    (p.ending? stage).isSome
      = match stage with
        | .intake => p.intake.hasEnded
        | .cache => p.caching.hasEnded
        | .deduper => p.deduping.hasEnded
        | .decorator => p.decorating.hasEnded
        | .export => p.exporting.hasEnded := by
  cases stage with
  | intake => simp only [ending?]; cases p.intake <;> rfl
  | cache => simp only [ending?]; cases p.caching <;> rfl
  | deduper => simp only [ending?]; cases p.deduping <;> rfl
  | decorator => simp only [ending?]; cases p.decorating <;> rfl
  | «export» => simp only [ending?]; cases p.exporting <;> rfl

/-- Nothing is left in the stages and between them. -/
structure IsEmpty (p : Pipeline) : Prop where
  intake : p.intake.hasEnded = true
  raw : p.raw.queue = []
  entries : p.cache.entries = []
  caching : p.caching.items = []
  evicted : p.evicted.queue = []
  deduping : p.deduping.items = []
  deduped : p.deduped.queue = []
  decorating : p.decorating.items = []
  decorated : p.decorated.queue = []

/-- When all stages of an undisturbed run have ended, nothing is left. -/
theorem Wired.isEmpty (hp : p.Wired) (h : p.HasEnded) : p.IsEmpty := by
  have hcaching : p.caching.hasEnded = true := (p.ending?_eq .cache).symm.trans (h .cache)
  have hdeduping : p.deduping.hasEnded = true := (p.ending?_eq .deduper).symm.trans (h .deduper)
  have hdecorating : p.decorating.hasEnded = true :=
    (p.ending?_eq .decorator).symm.trans (h .decorator)
  have hexporting : p.exporting.hasEnded = true := (p.ending?_eq .export).symm.trans (h .export)
  have hleaving : p.caching.isLeaving = true := Phase.isLeaving_of_hasEnded hcaching
  exact {
    intake := (p.ending?_eq .intake).symm.trans (h .intake)
    raw := (hp.raw.exhausted hcaching).2
    entries := (hp.leaving hleaving).2.2
    caching := Phase.items_of_hasEnded hcaching
    evicted := (hp.evicted.exhausted hdeduping).2
    deduping := Phase.items_of_hasEnded hdeduping
    deduped := (hp.deduped.exhausted hdecorating).2
    decorating := Phase.items_of_hasEnded hdecorating
    decorated := (hp.decorated.exhausted hexporting).2 }

end Pipeline

end Flowmeter
