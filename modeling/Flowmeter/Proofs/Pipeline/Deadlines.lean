-- SUMMARY: The stages compute all their deadlines as long as the active timeout and an ownership can still be added to the clock, and only so long.
import Flowmeter.Proofs.Cache.Reachable
import Flowmeter.Proofs.Dedup.Memory
import Flowmeter.Proofs.Pipeline.Batches
import Flowmeter.Proofs.Pipeline.Run

/-!
# Deadlines

Three instants of a pipeline lie ahead of its clock: the first tick of the
cache, the end of the active timeout of an entry, and the end of an ownership.
The first is computed at the start and the others from instants that have
passed, so none of them overflows before the clock has come so far that the
timeout, or an ownership, cannot be added to it any more. From then on each
of the two stages fails as soon as it has to.
-/

namespace Flowmeter

/-! ## Expiring in time -/

namespace Cache

/-- A cache with a timeout, whose entries were all created by `now`. -/
structure Timely (timeout : Duration) (now : Instant) (c : Cache) : Prop where
  wellFormed : c.WellFormed
  timeout_eq : c.timeout = timeout
  created_le : ∀ r ∈ c.order, r.created ≤ now

theorem WellFormed.expireUpTo_answers {c : Cache} (h : c.WellFormed)
    (hlimit : ∀ r ∈ c.order, r.created + c.timeout.nanos < Instant.limit) (count : Nat)
    (now : Instant) : ∃ answer, expireUpTo count c now = .ok answer := by
  induction count generalizing c with
  | zero => exact ⟨_, rfl⟩
  | succ count ih =>
    rw [expireUpTo]
    split
    · exact ⟨_, rfl⟩
    · next first ranks horder =>
      rw [horder] at hlimit
      obtain ⟨hfirst, hranks⟩ := List.forall_mem_cons.1 hlimit
      obtain ⟨e, hfind, -⟩ := h.find?_first horder
      obtain ⟨answer, hlater⟩ := ih (h.dropFirst horder) hranks
      rw [Instant.add_eq_ok_iff.2 ⟨hfirst, rfl⟩, pop_cons horder hfind]
      by_cases hdue : now < first.created + c.timeout.nanos
      · exact ⟨_, if_pos hdue⟩
      · refine ⟨_, (if_neg hdue).trans (bind_eq_ok.2 ⟨_, hlater, rfl⟩)⟩

namespace Timely

variable {timeout : Duration} {now later : Instant} {c c' : Cache} {batch : Batch}

theorem empty (max : Nat) (timeout : Duration) (clock : Clock) (now : Instant) :
    Timely timeout now (.empty max timeout clock) where
  wellFormed := empty_wellFormed max timeout clock
  timeout_eq := rfl
  created_le r hr := by cases hr

theorem mono (h : c.Timely timeout now) (hle : now ≤ later) : c.Timely timeout later :=
  { h with created_le := fun r hr => Nat.le_trans (h.created_le r hr) hle }

theorem insert (h : c.Timely timeout now) (hle : now ≤ later) (r : RawRecord) :
    (c.insert r later).2.Timely timeout later where
  wellFormed := h.wellFormed.insert_wellFormed r later
  timeout_eq := (h.wellFormed.sameSettings_insert r later).timeout_eq.trans h.timeout_eq
  created_le := by
    have hadded : ∀ {ranks : List Rank}, ranks ⊆ c.order →
        ∀ s ∈ Rank.insert ⟨later, r.id⟩ ranks, s.created ≤ later := by
      intro ranks hsub s hs
      rcases Rank.mem_insert.1 hs with rfl | hs
      · exact Nat.le_refl _
      · exact (h.mono hle).created_le s (hsub hs)
    obtain ⟨_, _, heq⟩ | ⟨_, _, heq⟩ | ⟨first, ranks, _, _, _, horder, _, heq⟩ :=
      h.wellFormed.insert_cases r later
    · rw [heq]
      exact (h.mono hle).created_le
    · rw [heq]
      exact hadded (List.Subset.refl _)
    · rw [heq]
      exact hadded (horder ▸ List.subset_cons_self first ranks)

theorem expire (h : c.Timely timeout now) (heq : c.expire later = .ok (batch, c')) :
    c'.Timely timeout now where
  wellFormed := (h.wellFormed.expire_pops heq).wellFormed h.wellFormed
  timeout_eq := (h.wellFormed.expire_pops heq).sameSettings.timeout_eq.trans h.timeout_eq
  created_le r hr := by
    obtain ⟨dropped, horder, -⟩ := h.wellFormed.expireUpTo_evicts heq
    exact h.created_le r (horder ▸ List.mem_append_right dropped hr)

theorem drain (h : c.Timely timeout now) : c.drain.2.Timely timeout now where
  wellFormed := h.wellFormed.drain_wellFormed
  timeout_eq := h.timeout_eq
  created_le r hr := by cases hr

theorem expire_answers (h : c.Timely timeout now)
    (hlimit : now + timeout.nanos < Instant.limit) : ∃ answer, c.expire later = .ok answer := by
  refine h.wellFormed.expireUpTo_answers (fun r hr => ?_) _ later
  rw [h.timeout_eq]
  exact Nat.lt_of_le_of_lt (Nat.add_le_add_right (h.created_le r hr) _) hlimit

end Timely

theorem insert_empty (max : Nat) (timeout : Duration) (clock : Clock) (r : RawRecord)
    (now : Instant) :
    (empty max timeout clock).insert r now
      = (none, (empty max timeout clock).addEntry r.id r.metrics now) := by
  have hempty := empty_wellFormed max timeout clock
  obtain ⟨e, hfind, -⟩ | ⟨-, -, heq⟩ | ⟨_, _, _, -, hfull, -⟩ := hempty.insert_cases r now
  · cases hfind
  · exact heq
  · exact absurd hempty.capacity_pos (Nat.not_lt.2 hfull)

end Cache

/-! ## Judging in time -/

theorem Deduper.dedup_answers {d : Deduper} {now : Instant}
    (hlimit : d.kind = .none ∨ now + d.expiry.nanos < Instant.limit) (batch : Batch) :
    ∃ answer, d.dedup batch now = .ok answer := by
  have hjudge : ∃ judged, d.judgeBatch batch now = .ok judged := by
    cases hkind : d.kind with
    | none => exact ⟨_, by rw [judgeBatch, hkind]⟩
    | firstCome =>
      rw [hkind] at hlimit
      exact Dedup.judgeBatch_followsHistory.answers d batch now hkind
        fun _ => hlimit.resolve_left (by decide)
  obtain ⟨⟨judged, d'⟩, hjudged⟩ := hjudge
  exact ⟨_, dedup_eq_ok.2 ⟨judged, hjudged, rfl⟩⟩

/-- A flow that nobody owns gets an owner, even if no ownership can end. -/
theorem Deduper.dedup_empty_overflows (mode : Dedup.Mode) {expiry : Duration} {now : Instant}
    (hover : ¬ now + expiry.nanos < Instant.limit) (r : Record) (rest : Batch) :
    (Deduper.empty .firstCome mode expiry).dedup (r :: rest) now = .error .addToInstant := by
  have hadd : Instant.add now expiry = .error .addToInstant := if_neg hover
  simp [dedup, judgeBatch, judgeEach, judge, empty, Dedup.Memory.expire,
    Dedup.Memory.ownedElsewhere, hadd, bind, Except.bind]

namespace Pipeline

variable {setup : Setup} {p q : Pipeline} {arrived : List (Except Intake.ReadError Bytes)}
  {sent : List RawRecord}

/-- The active timeout and an ownership, if there are any, can be added to `now`. -/
def Setup.FitsAt (setup : Setup) (now : Instant) : Prop :=
  now + setup.cache.timeout.nanos < Instant.limit ∧
    (setup.deduper.kind = .none ∨ now + setup.deduper.expiry.nanos < Instant.limit)

theorem Setup.FitsAt.mono {now later : Instant} (h : setup.FitsAt later) (hle : now ≤ later) :
    setup.FitsAt now :=
  ⟨Nat.lt_of_le_of_lt (Nat.add_le_add_right hle _) h.1,
    h.2.imp id fun hlimit => Nat.lt_of_le_of_lt (Nat.add_le_add_right hle _) hlimit⟩

/-- The export stage is the only one that may fail. -/
def OnlyExportFails (p : Pipeline) : Prop :=
  ∀ e ∈ p.endings, e.2 = .failed → e.1 = .export

/-! ## Steps in time -/

/-- The cache is timely, and the deduper is set up as it was. -/
structure Timely (setup : Setup) (p : Pipeline) : Prop where
  cache : p.cache.Timely setup.cache.timeout p.now
  kind_eq : p.deduper.kind = setup.deduper.kind
  expiry_eq : p.deduper.expiry = setup.deduper.expiry

theorem CacheStep.timely (h : CacheStep p q) (hp : Timely setup p) : Timely setup q := by
  cases h with
  | insert => exact { hp with cache := hp.cache.insert (Nat.le_add_right _ _) _ }
  | tick _ _ _ hexpire => exact { hp with cache := hp.cache.expire hexpire }
  | flush => exact { hp with cache := hp.cache.drain }
  | finish => exact { hp with cache := hp.cache.drain }
  | drain => exact { hp with cache := hp.cache.drain }
  | _ => exact { hp with }

theorem DeduperStep.timely (h : DeduperStep p q) (hp : Timely setup p) : Timely setup q := by
  have hcache := hp.cache.mono (Nat.le_add_right p.now p.pace)
  cases h with
  | judge _ _ hdedup =>
    obtain ⟨judged, hjudged, -⟩ := Deduper.dedup_eq_ok.1 hdedup
    obtain ⟨-, m, rfl⟩ := Deduper.judgeBatch_frame hjudged
    exact { hp with cache := hcache }
  | fail => exact { hp with cache := hcache }
  | _ => exact { hp with }

theorem WorldStep.timely (h : WorldStep p arrived q) (hp : Timely setup p) : Timely setup q := by
  cases h with
  | wait => exact { hp with cache := hp.cache.mono (Nat.le_add_right _ _) }
  | _ => exact { hp with }

theorem Step.timely (h : Step p arrived sent q) (hp : Timely setup p) : Timely setup q := by
  cases h with
  | intake h => cases h <;> exact { hp with }
  | cache h => exact h.timely hp
  | deduper h => exact h.timely hp
  | decorator h => cases h <;> exact { hp with }
  | «export» h => cases h <;> exact { hp with }
  | @quit stage => cases stage <;> exact { hp with }
  | world h => exact h.timely hp

/-- The clock never goes back. -/
theorem Step.now_le (h : Step p arrived sent q) : p.now ≤ q.now := by
  cases h with
  | intake h => cases h <;> exact Nat.le_refl _
  | cache h => cases h <;> first | exact Nat.le_refl _ | exact Nat.le_add_right _ _
  | deduper h => cases h <;> first | exact Nat.le_refl _ | exact Nat.le_add_right _ _
  | decorator h => cases h <;> exact Nat.le_refl _
  | «export» h => cases h <;> exact Nat.le_refl _
  | @quit stage => cases stage <;> exact Nat.le_refl _
  | world h => cases h <;> first | exact Nat.le_refl _ | exact Nat.le_add_right _ _

/-! ## Failing steps -/

theorem OnlyExportFails.stop (h : p.OnlyExportFails) {stage : Stage} {e : Ending}
    (hallowed : e = .failed → stage = .export) : (p.stop stage e).OnlyExportFails := by
  intro ending hmem
  rw [stop_endings] at hmem
  rcases List.mem_append.1 hmem with hmem | hmem
  · exact h ending hmem
  · obtain rfl := List.mem_singleton.1 hmem
    exact hallowed

/-- A stage that comes to its end without a failure. -/
theorem OnlyExportFails.finish (h : p.OnlyExportFails) (stage : Stage) :
    (p.stop stage .finished).OnlyExportFails :=
  h.stop fun hfailed => by cases hfailed

theorem CacheStep.onlyExportFails (h : CacheStep p q) (hp : Timely setup p)
    (htimeout : setup.cache.timeout ≠ .zero) (hfits : setup.FitsAt p.now)
    (hfails : p.OnlyExportFails) : q.OnlyExportFails := by
  have htime := hp.cache.timeout_eq
  cases h with
  | failTimer _ _ hcause =>
    rw [htime] at hcause
    rcases hcause with hzero | ⟨cause, hover⟩
    · exact absurd hzero htimeout
    · rw [Instant.add_eq_ok_iff.2 ⟨hfits.1, rfl⟩] at hover
      cases hover
  | failTick _ _ _ hexpire =>
    obtain ⟨answer, hanswer⟩ := hp.cache.expire_answers hfits.1
    rw [hanswer] at hexpire
    cases hexpire
  | finish => exact OnlyExportFails.finish (p := { p with cache := _ }) hfails .cache
  | part => exact OnlyExportFails.finish (p := { p with evicted := _ }) hfails .cache
  | refuse => exact hfails.finish .cache
  | _ => exact hfails

theorem DeduperStep.onlyExportFails (h : DeduperStep p q) (hp : Timely setup p)
    (hfits : setup.FitsAt q.now) (hfails : p.OnlyExportFails) : q.OnlyExportFails := by
  cases h with
  | @fail batch queue cause _ _ hdedup =>
    have hlimit : p.deduper.kind = .none ∨
        (p.now + p.pace) + p.deduper.expiry.nanos < Instant.limit := by
      rw [hp.kind_eq, hp.expiry_eq]
      exact hfits.2
    obtain ⟨answer, hanswer⟩ := Deduper.dedup_answers hlimit batch
    rw [hanswer] at hdedup
    cases hdedup
  | finish => exact hfails.finish .deduper
  | refuse => exact hfails.finish .deduper
  | _ => exact hfails

theorem Step.onlyExportFails (h : Step p arrived sent q) (hp : Timely setup p)
    (htimeout : setup.cache.timeout ≠ .zero) (hfits : setup.FitsAt q.now)
    (hfails : p.OnlyExportFails) : q.OnlyExportFails := by
  cases h with
  | intake h =>
    cases h with
    | finish => exact hfails.finish .intake
    | readClosed => exact OnlyExportFails.finish (p := { p with source := _ }) hfails .intake
    | refuse => exact hfails.finish .intake
    | _ => exact hfails
  | cache h =>
    exact h.onlyExportFails hp htimeout (hfits.mono (Step.now_le (.cache h))) hfails
  | deduper h => exact h.onlyExportFails hp hfits hfails
  | decorator h =>
    cases h with
    | finish => exact hfails.finish .decorator
    | refuse => exact hfails.finish .decorator
    | _ => exact hfails
  | «export» h =>
    cases h with
    | fail => exact OnlyExportFails.stop (p := { p with decorated := _ }) hfails fun _ => rfl
    | finish => exact hfails.finish .export
    | _ => exact hfails
  | quit => exact hfails.finish _
  | world h => cases h <;> exact hfails

/-! ## Runs in time -/

/-- As long as the clock has not come too far, only the export stage may have failed. -/
theorem Trace.onlyExportFails_of_run (htimeout : setup.cache.timeout ≠ .zero)
    {now : Instant} (hcache : setup.cache.Timely setup.cache.timeout now) {acts : List Act}
    {t : Trace} (hrun : (start (Pipeline.start setup now)).run acts = some t)
    (hfits : setup.FitsAt t.pipeline.now) : t.pipeline.OnlyExportFails := by
  have hkeeps : Timely setup t.pipeline ∧
      (setup.FitsAt t.pipeline.now → t.pipeline.OnlyExportFails) := by
    refine run_induction (P := fun t => Timely setup t.pipeline ∧
      (setup.FitsAt t.pipeline.now → t.pipeline.OnlyExportFails)) hrun ⟨?_, ?_⟩ ?_
    · exact ⟨hcache, rfl, rfl⟩
    · intro _ ending hmem
      cases hmem
    · intro t t' arrived sent hstep _ _ ⟨ht, hfails⟩
      exact ⟨hstep.timely ht, fun hlater =>
        hstep.onlyExportFails ht htimeout hlater (hfails (hlater.mono hstep.now_le))⟩
  exact hkeeps.2 hfits

/-! ## What happens next

The converse of the steps above, for those on the way of a record to the deduper
that depend on the time. -/

theorem startTimer_of_fits (hready : p.caching = .ready) (hnone : p.nextTick = none)
    (hpositive : p.cache.timeout ≠ .zero)
    (hfits : p.now + p.cache.timeout.nanos < Instant.limit) :
    Act.apply p (.stage .startTimer) = some { p with nextTick := some (p.now + p.cache.timeout.nanos) } := by
  have hadd : Instant.add p.now p.cache.timeout = .ok (p.now + p.cache.timeout.nanos) :=
    Instant.add_eq_ok_iff.2 ⟨hfits, rfl⟩
  simp only [Act.apply, Action.apply, startTimer, hready, hnone]
  simp only [if_neg hpositive, hadd]

theorem startTimer_overflows (hready : p.caching = .ready) (hnone : p.nextTick = none)
    (hover : ¬ p.now + p.cache.timeout.nanos < Instant.limit) :
    Act.apply p (.stage .startTimer) = some (p.stop .cache .failed) := by
  have hadd : Instant.add p.now p.cache.timeout = .error .addToInstant := if_neg hover
  simp only [Act.apply, Action.apply, startTimer, hready, hnone]
  simp only [hadd, ite_self]

theorem read_of_record {result : Except Intake.ReadError Bytes} {source : List _} {r : RawRecord}
    (hready : p.intake = .ready) (hrested : p.restsUntil ≤ p.now)
    (hsource : p.source = result :: source) (hresult : Intake.receive result = .record r)
    (hroom : r.metrics.mapFull = false) :
    Act.apply p (.stage .read) = some { p with source, intake := .holding r } := by
  have hrests : p.isResting = false := decide_eq_false (Nat.not_lt.2 hrested)
  simp [Act.apply, Action.apply, read, hready, hrests, hsource, hresult, hroom]

theorem insert_of_mem {due : Instant} {r : RawRecord} {queue : List RawRecord}
    {c : Cache} (hready : p.caching = .ready)
    (hdue : p.nextTick = some due) (hqueue : p.raw.queue = r :: queue)
    (hinsert : p.cache.insert r (p.now + p.pace) = (none, c)) :
    Act.apply p (.stage .insert) = some { p with
      raw := { p.raw with queue }
      cache := c
      now := p.now + p.pace } := by
  have hreceive : p.raw.receive? = some (r, { p.raw with queue }) :=
    Channel.receive?_eq_some_iff.2 ⟨queue, hqueue, rfl⟩
  simp only [Act.apply, Action.apply, insert, hready, hdue, hreceive, hinsert]
  rfl

theorem dedup_of_error {batch : Batch} {queue : List Batch} {cause : TimeOverflow}
    (hready : p.deduping = .ready) (hqueue : p.evicted.queue = batch :: queue)
    (herror : p.deduper.dedup batch (p.now + p.pace) = .error cause) :
    Act.apply p (.stage .dedup) = some
      ({ p with evicted := { p.evicted with queue }, now := p.now + p.pace }.stop
        .deduper .failed) := by
  have hreceive : p.evicted.receive? = some (batch, { p.evicted with queue }) :=
    Channel.receive?_eq_some_iff.2 ⟨queue, hqueue, rfl⟩
  simp only [Act.apply, Action.apply, dedup, hready, hreceive, herror]

/-- A run goes on with an act that can happen. -/
theorem Trace.exists_run_cons {t : Trace} {act : Act} {acts : List Act} {P : Trace → Prop}
    {q : Pipeline} (h : act.apply t.pipeline = some q)
    (hlater : ∃ t', Trace.run ⟨q, t.arrived ++ act.arrived, t.sent ++ act.sent t.pipeline⟩ acts
      = some t' ∧ P t') :
    ∃ t', t.run (act :: acts) = some t' ∧ P t' := by
  have hnext : t.next act = some ⟨q, t.arrived ++ act.arrived, t.sent ++ act.sent t.pipeline⟩ := by
    rw [next, h]
  obtain ⟨t', hrun, ht'⟩ := hlater
  refine ⟨t', ?_, ht'⟩
  rw [run, hnext]
  exact hrun

end Pipeline

end Flowmeter
