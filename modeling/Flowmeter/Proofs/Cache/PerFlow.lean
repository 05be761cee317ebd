-- SUMMARY: A run of operations followed for one flow, which it treats as if there were no other, as long as there is room.
import Flowmeter.Proofs.Cache.Conservation
import Flowmeter.Proofs.Cache.Entries

/-!
# One flow at a time

As long as no entry has to make room for another one, what an operation does to
a flow depends on the entry of that flow only. So the records of the flow and
its entry can be computed without the cache, from the operations that concern
the flow. This is what `follow` does, and every run in which nothing is evicted
by pressure agrees with it.
-/

namespace Flowmeter

namespace Cache

/-! ## Operations that concern a flow -/

namespace Operation

/-- Only the insertions of other flows do not concern a flow. -/
def concerns (id : FlowId) : Operation → Bool
  | .insert r _ => r.id = id
  | .expire _ | .drain => true

theorem concerns_insert {id : FlowId} {r : RawRecord} {now : Instant} :
    (insert r now).concerns id = true ↔ r.id = id := by
  simp [concerns]

/-- An operation that does not concern a flow inserts a sample of another one. -/
theorem eq_insert_of_not_concerns {op : Operation} {id : FlowId} (h : ¬ op.concerns id) :
    ∃ r now, op = insert r now ∧ r.id ≠ id := by
  cases op with
  | insert r now => exact ⟨r, now, rfl, mt concerns_insert.2 h⟩
  | expire now => exact absurd rfl h
  | drain => exact absurd rfl h

/-- What an operation that concerns a flow does to its entry if there is room: the records that
leave, and the entry afterwards. -/
def onFlow (timeout : Duration) (clock : Clock) (id : FlowId) (entry : Option Entry) :
    Operation → Batch × Option Entry
  | .insert r now =>
    match entry with
    | none => ([], some ⟨r.metrics, now⟩)
    | some e => ([], some { e with metrics := e.metrics.merge r.metrics })
  | .expire now =>
    match entry with
    | none => ([], none)
    | some e => if e.created + timeout.nanos ≤ now then ([leave clock (id, e)], none) else ([], some e)
  | .drain => (entry.toList.map fun e => leave clock (id, e), none)

end Operation

open Operation

/-! ## Without pressure -/

/-- Nothing leaves, if a sample is inserted. -/
def Operation.HasRoom (op : Operation) (batch : Batch) : Prop := op.inserted ≠ [] → batch = []

/-- Nothing leaves at any operation that inserts a sample. -/
def Roomy (ops : List Operation) (batches : List Batch) : Prop :=
  ∀ x ∈ ops.zip batches, x.1.HasRoom x.2

theorem roomy_cons {op : Operation} {ops : List Operation} {batch : Batch} {later : List Batch} :
    Roomy (op :: ops) (batch :: later) ↔ op.HasRoom batch ∧ Roomy ops later := by
  simp only [Roomy, List.zip_cons_cons, List.forall_mem_cons]

/-- The operations have results, and nothing leaves where a sample is inserted. -/
def RoomFor (c : Cache) (ops : List Operation) : Prop :=
  ∃ batches c', c.runAll ops = .ok (batches, c') ∧ Roomy ops batches

theorem roomFor_cons {c : Cache} {op : Operation} {ops : List Operation} :
    c.RoomFor (op :: ops) ↔ ∃ batch c₁, op.apply c = .ok (batch, c₁) ∧
      op.HasRoom batch ∧ c₁.RoomFor ops := by
  constructor
  · rintro ⟨batches, c', hrun, hroomy⟩
    obtain ⟨batch, c₁, later, hop, hops, rfl⟩ := runAll_cons_eq_ok.1 hrun
    obtain ⟨hbatch, hlater⟩ := roomy_cons.1 hroomy
    exact ⟨batch, c₁, hop, hbatch, later, c', hops, hlater⟩
  · rintro ⟨batch, c₁, hop, hbatch, later, c', hops, hlater⟩
    exact ⟨_, c', runAll_cons_eq_ok.2 ⟨batch, c₁, later, hop, hops, rfl⟩,
      roomy_cons.2 ⟨hbatch, hlater⟩⟩

theorem insert_eq_of_apply {c c' : Cache} {r : RawRecord} {now : Instant} {batch : Batch}
    (h : (Operation.insert r now).apply c = .ok (batch, c'))
    (hroom : (Operation.insert r now).HasRoom batch) :
    batch = [] ∧ c.insert r now = (none, c') := by
  obtain ⟨rfl, rfl⟩ := Prod.mk.inj (Except.ok.inj h)
  have hnone := hroom (List.cons_ne_nil _ _)
  exact ⟨hnone, Prod.ext (Option.toList_eq_nil_iff.1 hnone) rfl⟩

theorem apply_insert {c c' : Cache} {r : RawRecord} {now : Instant}
    (h : c.insert r now = (none, c')) : (Operation.insert r now).apply c = .ok ([], c') := by
  rw [Operation.apply, h]
  rfl

theorem roomFor_insert_cons {c : Cache} {r : RawRecord} {now : Instant} {ops : List Operation} :
    c.RoomFor (.insert r now :: ops) ↔ ∃ c₁, c.insert r now = (none, c₁) ∧ c₁.RoomFor ops := by
  rw [roomFor_cons]
  constructor
  · rintro ⟨batch, c₁, hop, hbatch, hops⟩
    exact ⟨c₁, (insert_eq_of_apply hop hbatch).2, hops⟩
  · rintro ⟨c₁, hinsert, hops⟩
    exact ⟨[], c₁, apply_insert hinsert, fun _ => rfl, hops⟩

theorem RoomFor.of_append {c : Cache} {ops ops' : List Operation} (h : c.RoomFor (ops ++ ops')) :
    c.RoomFor ops := by
  obtain ⟨batches, c', hrun, hroomy⟩ := h
  obtain ⟨before, c₁, after, hbefore, -, rfl⟩ := runAll_append hrun
  refine ⟨before, c₁, hbefore, fun x hx => hroomy x ?_⟩
  rw [List.zip_append (length_runAll hbefore).symm]
  exact List.mem_append_left _ hx

/-! ## One operation -/

section

variable {c : Cache} {id : FlowId} {now : Instant} {e : Entry}

theorem onFlow_expire_of_isDue (hdue : c.IsDue now e.created) :
    (Operation.expire now).onFlow c.timeout c.clock id (some e)
      = ([leave c.clock (id, e)], none) :=
  if_pos hdue

theorem onFlow_expire_of_not_isDue (hdue : ¬ c.IsDue now e.created) :
    (Operation.expire now).onFlow c.timeout c.clock id (some e) = ([], some e) :=
  if_neg hdue

theorem live_eq_nil_iff : c.live id = [] ↔ c.find? id = none := by
  simp [live]

end

namespace WellFormed

variable {c c' : Cache} {op : Operation} {batch : Batch} {id : FlowId} {now : Instant}

/-- An insertion for which there is room touches no other flow. -/
theorem find?_insert (h : c.WellFormed) {r : RawRecord} (heq : c.insert r now = (none, c'))
    (id : FlowId) :
    c'.find? id = if id = r.id
      then ((Operation.insert r now).onFlow c.timeout c.clock id (c.find? id)).2 else c.find? id := by
  obtain ⟨e, hfind, rfl⟩ | ⟨hnew, -, rfl⟩ := h.cases_of_insert_eq_none heq
  · rw [find?_mergeInto, hfind]
    split
    · next hid =>
      rw [hid, hfind]
      rfl
    · rfl
  · rw [find?_addEntry hnew]
    split
    · next hid =>
      rw [hid, hnew]
      rfl
    · rfl

/-- An expiry keeps an entry as it is, or evicts it if it is due, whatever else is in the cache. -/
theorem expire_onFlow (h : c.WellFormed) (heq : c.expire now = .ok (batch, c')) (id : FlowId) :
    (batch.filter (·.id = id), c'.find? id)
      = (Operation.expire now).onFlow c.timeout c.clock id (c.find? id) := by
  have hpops := h.expire_pops heq
  have hcreated : ∀ t, c'.createdAt id = some t ↔ c.createdAt id = some t ∧ ¬ c.IsDue now t :=
    fun _ => h.createdAt_expire heq
  -- What is kept of the flow and what leaves of it make up its entry.
  have hmetrics := hpops.metricsOf_append_live id
  rw [filter_eq_of_isPlain hpops.isPlain id]
  cases hfind : c.find? id with
  | none =>
    rw [live_eq_nil_iff.2 hfind, List.append_eq_nil_iff] at hmetrics
    rw [hmetrics.1, live_eq_nil_iff.1 hmetrics.2]
    rfl
  | some e =>
    simp only [createdAt, hfind, Option.map_some, Option.some.injEq] at hcreated
    have hlive : c.live id = [e.metrics] := by rw [live, hfind]; rfl
    by_cases hdue : c.IsDue now e.created
    · have hgone : c'.find? id = none := by
        refine Option.eq_none_iff_forall_ne_some.2 fun e' hfind' => ?_
        have hkept : (c'.find? id).map Entry.created = some e'.created := by rw [hfind', Option.map_some]
        obtain ⟨hsame, hnot⟩ := (hcreated e'.created).1 hkept
        exact hnot (hsame ▸ hdue)
      rw [live_eq_nil_iff.2 hgone, hlive, List.append_nil] at hmetrics
      rw [hmetrics, hgone, onFlow_expire_of_isDue hdue]
      rfl
    · obtain ⟨e', hfind', hsame⟩ := Option.map_eq_some_iff.1 ((hcreated e.created).2 ⟨rfl, hdue⟩)
      have hlive' : c'.live id = [e'.metrics] := by rw [live, hfind']; rfl
      rw [hlive', hlive] at hmetrics
      obtain ⟨hnone, hlast⟩ := List.append_inj' (hmetrics.trans (List.nil_append _).symm) rfl
      have hkept : e' = e := by
        cases e
        cases e'
        simp_all
      rw [hnone, hfind', hkept, onFlow_expire_of_not_isDue hdue]
      rfl

theorem filter_drain (h : c.WellFormed) (id : FlowId) :
    c.drain.1.filter (·.id = id) = (Operation.drain.onFlow c.timeout c.clock id (c.find? id)).1 := by
  rw [filter_eq_of_isPlain (isPlain_drain c) id, h.metricsOf_drain id, live, List.map_map]
  rfl

/-- What an operation for which there is room does to the entry of a flow that it concerns. -/
theorem apply_onFlow (h : c.WellFormed) (heq : op.apply c = .ok (batch, c'))
    (hroom : op.HasRoom batch) (hid : op.concerns id) :
    (batch.filter (·.id = id), c'.find? id) = op.onFlow c.timeout c.clock id (c.find? id) := by
  cases op with
  | insert r now =>
    obtain ⟨rfl, hinsert⟩ := insert_eq_of_apply heq hroom
    have hid : id = r.id := (concerns_insert.1 hid).symm
    rw [h.find?_insert hinsert id, if_pos hid]
    cases c.find? id <;> rfl
  | expire now => exact h.expire_onFlow heq id
  | drain =>
    have hdrain : c.drain = (batch, c') := Except.ok.inj heq
    have hfilter := h.filter_drain id
    rw [hdrain] at hfilter
    obtain rfl : c.drain.2 = c' := congrArg Prod.snd hdrain
    exact Prod.ext hfilter rfl

/-- An operation for which there is room touches no flow that it does not concern. -/
theorem find?_apply_of_not_concerns (h : c.WellFormed) (heq : op.apply c = .ok (batch, c'))
    (hroom : op.HasRoom batch) (hid : ¬ op.concerns id) :
    c'.find? id = c.find? id := by
  obtain ⟨r, now, rfl, hne⟩ := eq_insert_of_not_concerns hid
  obtain ⟨rfl, hinsert⟩ := insert_eq_of_apply heq hroom
  rw [h.find?_insert hinsert id, if_neg (Ne.symm hne)]

end WellFormed

/-! ## Two caches with the same entry -/

/-- Both caches hold the same entry for the flow, or none. -/
structure Agree (id : FlowId) (c d : Cache) : Prop where
  wellFormed : c.WellFormed
  wellFormed_other : d.WellFormed
  settings : SameSettings c d
  find?_eq : d.find? id = c.find? id

namespace Agree

variable {id : FlowId} {c c₁ d d₁ : Cache} {op : Operation} {batch batch' : Batch}

/-- An operation for which both have room leaves the same entry in both. -/
theorem apply (h : Agree id c d) (hop : op.apply c = .ok (batch, c₁)) (hroom : op.HasRoom batch)
    (hop' : op.apply d = .ok (batch', d₁)) (hroom' : op.HasRoom batch') : Agree id c₁ d₁ := by
  have hsettings := sameSettings_apply h.wellFormed hop
  have hsettings' := sameSettings_apply h.wellFormed_other hop'
  refine ⟨apply_wellFormed h.wellFormed hop, apply_wellFormed h.wellFormed_other hop',
    hsettings.symm.trans (h.settings.trans hsettings'), ?_⟩
  by_cases hid : op.concerns id
  · have hflow := h.wellFormed.apply_onFlow hop hroom hid
    have hflow' := h.wellFormed_other.apply_onFlow hop' hroom' hid
    rw [h.find?_eq, h.settings.timeout_eq, h.settings.clock_eq, ← hflow] at hflow'
    exact congrArg Prod.snd hflow'
  · rw [h.wellFormed.find?_apply_of_not_concerns hop hroom hid,
      h.wellFormed_other.find?_apply_of_not_concerns hop' hroom' hid, h.find?_eq]

/-- An operation that does not concern the flow can be left out in one. -/
theorem skip (h : Agree id c d) (hid : ¬ op.concerns id) (hop : op.apply c = .ok (batch, c₁))
    (hroom : op.HasRoom batch) : Agree id c₁ d where
  wellFormed := apply_wellFormed h.wellFormed hop
  wellFormed_other := h.wellFormed_other
  settings := (sameSettings_apply h.wellFormed hop).symm.trans h.settings
  find?_eq := h.find?_eq.trans (h.wellFormed.find?_apply_of_not_concerns hop hroom hid).symm

end Agree

/-! ## Runs -/

/-- What leaves of a flow at each operation that concerns it. -/
def reports (id : FlowId) (ops : List Operation) (batches : List Batch) : List (Operation × Batch) :=
  ((ops.zip batches).filter (·.1.concerns id)).map fun x => (x.1, x.2.filter (·.id = id))

theorem reports_cons_of_concerns {id : FlowId} {op : Operation} (hid : op.concerns id)
    (ops : List Operation) (batch : Batch) (later : List Batch) :
    reports id (op :: ops) (batch :: later)
      = (op, batch.filter (·.id = id)) :: reports id ops later := by
  simp [reports, hid]

theorem reports_cons_of_not_concerns {id : FlowId} {op : Operation} (hid : ¬ op.concerns id)
    (ops : List Operation) (batch : Batch) (later : List Batch) :
    reports id (op :: ops) (batch :: later) = reports id ops later := by
  simp [reports, hid]

/-- What operations that concern a flow do to its entry one after the other. -/
def follow (timeout : Duration) (clock : Clock) (id : FlowId) :
    Option Entry → List Operation → List (Operation × Batch) × Option Entry
  | entry, [] => ([], entry)
  | entry, op :: ops =>
    let (left, entry) := op.onFlow timeout clock id entry
    let (later, entry) := follow timeout clock id entry ops
    ((op, left) :: later, entry)

theorem follow_cons (timeout : Duration) (clock : Clock) (id : FlowId) (entry : Option Entry)
    (op : Operation) (ops : List Operation) :
    follow timeout clock id entry (op :: ops) =
      ((op, (op.onFlow timeout clock id entry).1)
          :: (follow timeout clock id (op.onFlow timeout clock id entry).2 ops).1,
        (follow timeout clock id (op.onFlow timeout clock id entry).2 ops).2) := rfl

/-- A run with room for all samples does to each flow what the operations that concern it do. -/
theorem WellFormed.follow_runAll {c c' : Cache} (h : c.WellFormed) {ops : List Operation}
    {batches : List Batch} (hrun : c.runAll ops = .ok (batches, c')) (hroomy : Roomy ops batches)
    (id : FlowId) :
    (reports id ops batches, c'.find? id)
      = follow c.timeout c.clock id (c.find? id) (ops.filter (·.concerns id)) := by
  induction ops generalizing c batches with
  | nil =>
    obtain ⟨rfl, rfl⟩ := Prod.mk.inj (Except.ok.inj hrun)
    rfl
  | cons op ops ih =>
    obtain ⟨batch, c₁, later, hop, hops, rfl⟩ := runAll_cons_eq_ok.1 hrun
    obtain ⟨hroom, hroomy⟩ := roomy_cons.1 hroomy
    have hsettings := sameSettings_apply h hop
    have hlater := ih (apply_wellFormed h hop) hops hroomy
    rw [hsettings.timeout_eq, hsettings.clock_eq] at hlater
    by_cases hid : op.concerns id
    · rw [reports_cons_of_concerns hid, List.filter_cons_of_pos hid, follow_cons,
        ← h.apply_onFlow hop hroom hid, ← hlater]
    · rw [reports_cons_of_not_concerns hid, List.filter_cons_of_neg hid, hlater,
        h.find?_apply_of_not_concerns hop hroom hid]

/-- So two runs do the same to a flow if the operations that concern it are the same. -/
theorem WellFormed.runAll_congr {c c' c'' : Cache} (h : c.WellFormed) {ops ops' : List Operation}
    {batches batches' : List Batch} (hrun : c.runAll ops = .ok (batches, c'))
    (hroomy : Roomy ops batches) (hrun' : c.runAll ops' = .ok (batches', c''))
    (hroomy' : Roomy ops' batches') {id : FlowId}
    (hsame : ops'.filter (·.concerns id) = ops.filter (·.concerns id)) :
    reports id ops' batches' = reports id ops batches ∧ c''.find? id = c'.find? id := by
  have hfollow' := h.follow_runAll hrun' hroomy' id
  rw [hsame, ← h.follow_runAll hrun hroomy id] at hfollow'
  exact Prod.mk.inj hfollow'

end Cache

end Flowmeter
