-- SUMMARY: Without pressure, the flows in a cache do not disturb each other.
import Flowmeter.Proofs.Cache.Rearranged

/-!
# Isolation

If no entry has to make room for another one, the samples of other flows can be
left out of a run, and nothing changes for a flow. They can be inserted in
another order as well. There is one exception. An expiry looks at entries in
the order of creation, and no further than to the first that is not due. So a
flow may be behind others whenever it is looked for, and when these are gone
the instant at which it is due is computed for the first time, and may
overflow.
-/

namespace Flowmeter

namespace Cache

open Operation

/-! ## A flow on its own -/

/-- The cache `d` holds the entry that `c` has for the flow, and no other. -/
structure Alone (id : FlowId) (c d : Cache) : Prop extends Agree id c d where
  find?_other : ∀ other, other ≠ id → d.find? other = none

theorem alone_empty (id : FlowId) (max : Nat) (timeout : Duration) (clock : Clock) :
    Alone id (empty max timeout clock) (empty max timeout clock) where
  wellFormed := empty_wellFormed max timeout clock
  wellFormed_other := empty_wellFormed max timeout clock
  settings := ⟨rfl, rfl, rfl⟩
  find?_eq := rfl
  find?_other _ _ := rfl

theorem onFlow_none {op : Operation} (hop : op.inserted = []) (timeout : Duration) (clock : Clock)
    (id : FlowId) : (op.onFlow timeout clock id none).2 = none := by
  cases op with
  | insert r now => cases hop
  | expire now => rfl
  | drain => rfl

/-- What concerns two flows is no insertion. -/
theorem inserted_eq_nil_of_concerns {op : Operation} {id other : FlowId} (hid : op.concerns id)
    (hother : op.concerns other) (hne : other ≠ id) : op.inserted = [] := by
  cases op with
  | insert r now =>
    exact absurd ((concerns_insert.1 hother).symm.trans (concerns_insert.1 hid)) hne
  | expire now => rfl
  | drain => rfl

/-- An expiry that has a result has computed when the first entry is due. -/
theorem fits_of_expire {c : Cache} {first : Rank} {ranks : List Rank} {now : Instant}
    {answer : Batch × Cache} (horder : c.order = first :: ranks) (h : c.expire now = .ok answer) :
    first.created + c.timeout.nanos < Instant.limit := by
  rw [expire, horder, List.length_cons, expireUpTo, horder] at h
  obtain ⟨due, hdue, -⟩ := bind_eq_ok.1 h
  exact (Instant.add_eq_ok_iff.1 hdue).1

namespace Alone

variable {id : FlowId} {c c₁ d d₁ : Cache} {op : Operation} {batch kept : Batch}

theorem createdAt_of_mem (h : Alone id c d) {r : Rank} (hr : r ∈ d.order) :
    r.id = id ∧ c.createdAt id = some r.created := by
  have hcreated := h.wellFormed_other.createdAt_eq_some_iff.2 hr
  have hid : r.id = id := by
    by_contra hne
    rw [createdAt, h.find?_other r.id hne] at hcreated
    cases hcreated
  rw [hid, createdAt, h.find?_eq] at hcreated
  exact ⟨hid, hcreated⟩

theorem expire_answers_iff (h : Alone id c d) {now : Instant} :
    (∃ answer, d.expire now = .ok answer) ↔
      ∀ e, c.find? id = some e → e.created + c.timeout.nanos < Instant.limit := by
  rw [← h.settings.timeout_eq]
  constructor
  · rintro ⟨answer, hexpire⟩ e hfind
    have hmem := h.wellFormed_other.rankOf_mem_order
      (h.wellFormed_other.find?_eq_some_iff.1 (h.find?_eq.trans hfind))
    obtain ⟨first, ranks, horder⟩ := List.exists_cons_of_ne_nil (List.ne_nil_of_mem hmem)
    -- The first rank is the flow's, as there is no other.
    have hfirst := (h.createdAt_of_mem (horder ▸ List.mem_cons_self)).2
    rw [createdAt, hfind] at hfirst
    have hsame : e.created = first.created := Option.some.inj hfirst
    rw [hsame]
    exact fits_of_expire horder hexpire
  · intro hfits
    refine ⟨_, h.wellFormed_other.expireUpTo_eq (Nat.le_refl _) fun r hr => ?_⟩
    obtain ⟨e, hfind, hcreated⟩ := Option.map_eq_some_iff.1 (h.createdAt_of_mem hr).2
    rw [← hcreated]
    exact hfits e hfind

/-- There is room for the samples of a flow that has the cache to itself. -/
theorem insert_room (h : Alone id c d) {r : RawRecord} (hid : r.id = id) (now : Instant) :
    ∃ d₁, d.insert r now = (none, d₁) := by
  cases hfind : d.find? r.id with
  | some e => exact ⟨_, insert_of_cached hfind now⟩
  | none =>
    have hnone : d.entries = [] := by
      refine List.eq_nil_iff_forall_not_mem.2 fun x hx => ?_
      have hx := h.wellFormed_other.find?_eq_some_iff.2 hx
      by_cases hother : x.1 = id
      · rw [hother, ← hid, hfind] at hx
        cases hx
      · rw [h.find?_other x.1 hother] at hx
        cases hx
    have hsize : d.size = 0 := congrArg List.length hnone
    exact ⟨_, insert_of_room hfind (hsize ▸ h.wellFormed_other.capacity_pos) now⟩

theorem apply_answers_iff (h : Alone id c d) (hid : op.concerns id) :
    (∃ answer, op.apply d = .ok answer) ↔
      ∀ now, op = .expire now → ∀ e, c.find? id = some e →
        e.created + c.timeout.nanos < Instant.limit := by
  cases op with
  | insert r now => exact iff_of_true ⟨_, rfl⟩ nofun
  | expire now =>
    refine h.expire_answers_iff.trans ⟨fun hfits now' _ => hfits, fun hfits => hfits now rfl⟩
  | drain => exact iff_of_true ⟨_, rfl⟩ nofun

theorem hasRoom (h : Alone id c d) (hid : op.concerns id) (heq : op.apply d = .ok (kept, d₁)) :
    op.HasRoom kept := by
  intro hop
  cases op with
  | insert r now =>
    obtain ⟨rfl, rfl⟩ := Prod.mk.inj (Except.ok.inj heq)
    obtain ⟨d₁, hinsert⟩ := h.insert_room (concerns_insert.1 hid) now
    rw [hinsert]
    rfl
  | expire now => exact absurd rfl hop
  | drain => exact absurd rfl hop

/-- An operation that concerns the flow is done to both caches. -/
theorem apply (h : Alone id c d) (hid : op.concerns id) (hop : op.apply c = .ok (batch, c₁))
    (hroom : op.HasRoom batch) (hop' : op.apply d = .ok (kept, d₁)) : Alone id c₁ d₁ := by
  have hroom' := h.hasRoom hid hop'
  refine ⟨h.toAgree.apply hop hroom hop' hroom', fun other hother => ?_⟩
  by_cases hconcerns : op.concerns other
  · have hnone := h.wellFormed_other.apply_onFlow hop' hroom' hconcerns
    rw [h.find?_other other hother] at hnone
    exact (congrArg Prod.snd hnone).trans
      (onFlow_none (inserted_eq_nil_of_concerns hid hconcerns hother) _ _ _)
  · rw [h.wellFormed_other.find?_apply_of_not_concerns hop' hroom' hconcerns]
    exact h.find?_other other hother

/-- The insertion of another flow is left out. -/
theorem skip (h : Alone id c d) (hid : ¬ op.concerns id) (hop : op.apply c = .ok (batch, c₁))
    (hroom : op.HasRoom batch) : Alone id c₁ d :=
  ⟨h.toAgree.skip hid hop hroom, h.find?_other⟩

end Alone

/-! ## Leaving out the samples of other flows -/

/-- Whenever an expiry finds the flow in the cache, the instant at which its entry is due does
not overflow. -/
def DueFits (c : Cache) (ops : List Operation) (id : FlowId) : Prop :=
  ∀ n now before cₙ e, ops[n]? = some (.expire now) → c.runAll (ops.take n) = .ok (before, cₙ) →
    cₙ.find? id = some e → e.created + c.timeout.nanos < Instant.limit

theorem WellFormed.dueFits_cons {c c₁ : Cache} (h : c.WellFormed) {op : Operation} {batch : Batch}
    (hop : op.apply c = .ok (batch, c₁)) {ops : List Operation} {id : FlowId} :
    c.DueFits (op :: ops) id ↔
      (∀ now, op = .expire now → ∀ e, c.find? id = some e →
        e.created + c.timeout.nanos < Instant.limit) ∧ c₁.DueFits ops id := by
  have htimeout := (sameSettings_apply h hop).timeout_eq
  constructor
  · intro hfits
    refine ⟨?_, ?_⟩
    · rintro now rfl e hfind
      exact hfits 0 now [] c e rfl rfl hfind
    · intro n now before cₙ e hat hrun hfind
      rw [htimeout]
      exact hfits (n + 1) now (batch :: before) cₙ e hat
        (runAll_cons_eq_ok.2 ⟨batch, c₁, before, hop, hrun, rfl⟩) hfind
  · rintro ⟨hfirst, hlater⟩ n now before cₙ e hat hrun hfind
    cases n with
    | zero =>
      obtain ⟨-, rfl⟩ := Prod.mk.inj (Except.ok.inj hrun)
      exact hfirst now (Option.some.inj hat) e hfind
    | succ n =>
      obtain ⟨batch', c₁', later, hop', hops, -⟩ := runAll_cons_eq_ok.1 hrun
      obtain ⟨-, rfl⟩ := Prod.mk.inj (Except.ok.inj (hop.symm.trans hop'))
      rw [← htimeout]
      exact hlater n now later cₙ e hat hops hfind

namespace Alone

variable {id : FlowId} {c c' d d' : Cache} {ops : List Operation} {batches kept : List Batch}

/-- The run without the samples of other flows has a result if no instant at which the flow is
due overflows. -/
theorem runAll_answers_iff (h : Alone id c d) (hrun : c.runAll ops = .ok (batches, c'))
    (hroomy : Roomy ops batches) :
    (∃ answer, d.runAll (ops.filter (·.concerns id)) = .ok answer) ↔ c.DueFits ops id := by
  induction ops generalizing c d batches with
  | nil =>
    refine iff_of_true ⟨_, rfl⟩ fun n now before cₙ e hat => ?_
    cases hat
  | cons op ops ih =>
    obtain ⟨batch, c₁, later, hop, hops, rfl⟩ := runAll_cons_eq_ok.1 hrun
    obtain ⟨hroom, hroomy⟩ := roomy_cons.1 hroomy
    rw [h.wellFormed.dueFits_cons hop]
    by_cases hid : op.concerns id
    · rw [List.filter_cons_of_pos hid, ← h.apply_answers_iff hid]
      constructor
      · rintro ⟨⟨kept, d'⟩, hkept⟩
        obtain ⟨left, d₁, rest, hleft, hrest, -⟩ := runAll_cons_eq_ok.1 hkept
        exact ⟨⟨_, hleft⟩, (ih (h.apply hid hop hroom hleft) hops hroomy).1 ⟨_, hrest⟩⟩
      · rintro ⟨⟨⟨left, d₁⟩, hleft⟩, hfits⟩
        obtain ⟨⟨rest, d'⟩, hrest⟩ := (ih (h.apply hid hop hroom hleft) hops hroomy).2 hfits
        exact ⟨_, runAll_cons_eq_ok.2 ⟨left, d₁, rest, hleft, hrest, rfl⟩⟩
    · rw [List.filter_cons_of_neg hid, ih (h.skip hid hop hroom) hops hroomy]
      refine (and_iff_right ?_).symm
      rintro now rfl
      exact absurd rfl hid

/-- Nor has anything to make room in it. -/
theorem roomy (h : Alone id c d) (hrun : c.runAll ops = .ok (batches, c'))
    (hroomy : Roomy ops batches)
    (hkept : d.runAll (ops.filter (·.concerns id)) = .ok (kept, d')) :
    Roomy (ops.filter (·.concerns id)) kept := by
  induction ops generalizing c d batches kept with
  | nil => exact fun x hx => nomatch hx
  | cons op ops ih =>
    obtain ⟨batch, c₁, later, hop, hops, rfl⟩ := runAll_cons_eq_ok.1 hrun
    obtain ⟨hroom, hroomy⟩ := roomy_cons.1 hroomy
    by_cases hid : op.concerns id
    · rw [List.filter_cons_of_pos hid] at hkept ⊢
      obtain ⟨left, d₁, rest, hleft, hrest, rfl⟩ := runAll_cons_eq_ok.1 hkept
      exact roomy_cons.2 ⟨h.hasRoom hid hleft, ih (h.apply hid hop hroom hleft) hops hroomy hrest⟩
    · rw [List.filter_cons_of_neg hid] at hkept ⊢
      exact ih (h.skip hid hop hroom) hops hroomy hkept

end Alone

/-! ## Isolation -/

/-- Without the samples of other flows, the same leaves of the flow at each operation that
concerns it, and its entry is the same at every point. -/
def Isolated (c : Cache) (ops : List Operation) (batches : List Batch) (id : FlowId) : Prop :=
  ∃ kept c', c.runAll (ops.filter (·.concerns id)) = .ok (kept, c') ∧
    reports id (ops.filter (·.concerns id)) kept = reports id ops batches ∧
    ∀ n, ∃ before cₙ before' cₙ', c.runAll (ops.take n) = .ok (before, cₙ) ∧
      c.runAll ((ops.take n).filter (·.concerns id)) = .ok (before', cₙ') ∧
      cₙ'.find? id = cₙ.find? id

/-- A run in which no entry has to make room, on a new cache, however it is set up and at
whatever instants. Without the samples of other flows, the same leaves of a flow at each
operation and its entry is the same at every point, if and only if, whenever an expiry finds
the flow, the instant at which its entry is due does not overflow. And the samples of
different flows can be inserted in any order, which changes nothing for any of them. -/
theorem runAll_isolates {max : Nat} {timeout : Duration} {clock : Clock} {ops : List Operation}
    {batches : List Batch} {c : Cache}
    (hrun : (empty max timeout clock).runAll ops = .ok (batches, c))
    (hroomy : Roomy ops batches) :
    (∀ id, (empty max timeout clock).Isolated ops batches id ↔
      (empty max timeout clock).DueFits ops id) ∧
    ∀ ops', (∀ id, ops'.filter (·.concerns id) = ops.filter (·.concerns id)) →
      ∃ batches' c', (empty max timeout clock).runAll ops' = .ok (batches', c') ∧
        Roomy ops' batches' ∧
        ∀ id, reports id ops' batches' = reports id ops batches ∧ c'.find? id = c.find? id := by
  have hempty := empty_wellFormed max timeout clock
  constructor
  · intro id
    have halone := alone_empty id max timeout clock
    rw [← halone.runAll_answers_iff hrun hroomy]
    constructor
    · rintro ⟨kept, c', hkept, -⟩
      exact ⟨_, hkept⟩
    · rintro ⟨⟨kept, c'⟩, hkept⟩
      have hroomy' := halone.roomy hrun hroomy hkept
      have htwice : ∀ xs : List Operation,
          (xs.filter (·.concerns id)).filter (·.concerns id) = xs.filter (·.concerns id) := by
        simp [List.filter_filter]
      refine ⟨kept, c', hkept, (hempty.runAll_congr hrun hroomy hkept hroomy' (htwice ops)).1,
        fun n => ?_⟩
      have hroom : (empty max timeout clock).RoomFor (ops.take n ++ ops.drop n) := by
        rw [List.take_append_drop]
        exact ⟨batches, c, hrun, hroomy⟩
      have hroom' : (empty max timeout clock).RoomFor
          ((ops.take n).filter (·.concerns id) ++ (ops.drop n).filter (·.concerns id)) := by
        rw [← List.filter_append, List.take_append_drop]
        exact ⟨kept, c', hkept, hroomy'⟩
      obtain ⟨before, cₙ, hbefore, hroomyₙ⟩ := hroom.of_append
      obtain ⟨before', cₙ', hbefore', hroomyₙ'⟩ := hroom'.of_append
      exact ⟨before, cₙ, before', cₙ', hbefore, hbefore',
        (hempty.runAll_congr hbefore hroomyₙ hbefore' hroomyₙ' (htwice _)).2⟩
  · intro ops' hsame
    obtain ⟨batches', c', hrun', hroomy'⟩ :=
      hempty.roomFor_of_filter_eq hsame ⟨batches, c, hrun, hroomy⟩
    exact ⟨batches', c', hrun', hroomy',
      fun id => hempty.runAll_congr hrun hroomy hrun' hroomy' (hsame id)⟩

/-- A flow with an older and a younger one beside it, on a clock that goes back. The expiry is in
time for the older one and the flow itself. -/
def besideOthers : List Operation :=
  [.insert ⟨.tcpFrom 1 3, .ofPacket 60 5⟩ 10, .insert ⟨.tcpFrom 2 3, .ofPacket 70 6⟩ 20,
    .insert ⟨.tcpFrom 3 3, .ofPacket 80 7⟩ 30, .insert ⟨.tcpFrom 2 3, .ofPacket 90 8⟩ 15,
    .expire 5000000022, .insert ⟨.tcpFrom 2 3, .ofPacket 60 9⟩ 40, .drain]

/-- The same with the other flows behind it. -/
def beforeOthers : List Operation :=
  [.insert ⟨.tcpFrom 2 3, .ofPacket 70 6⟩ 20, .insert ⟨.tcpFrom 3 3, .ofPacket 80 7⟩ 30,
    .insert ⟨.tcpFrom 2 3, .ofPacket 90 8⟩ 15, .insert ⟨.tcpFrom 1 3, .ofPacket 60 5⟩ 10,
    .expire 5000000022, .insert ⟨.tcpFrom 2 3, .ofPacket 60 9⟩ 40, .drain]

theorem runAll_isolates_besideOthers :
    ∃ batches c, (empty 3 (.ofSeconds 5) ⟨0⟩).runAll besideOthers = .ok (batches, c) ∧
      Roomy besideOthers batches ∧
      (batches.map fun batch => batch.map Record.id)
        = [[], [], [], [], [.tcpFrom 1 3, .tcpFrom 2 3], [], [.tcpFrom 3 3, .tcpFrom 2 3]] ∧
      (empty 3 (.ofSeconds 5) ⟨0⟩).Isolated besideOthers batches (.tcpFrom 2 3) ∧
      ∃ batches' c', (empty 3 (.ofSeconds 5) ⟨0⟩).runAll beforeOthers = .ok (batches', c') ∧
        ∀ id, reports id beforeOthers batches' = reports id besideOthers batches := by
  obtain ⟨batches, c, hrun, hroomy, hids⟩ : ∃ batches c,
      (empty 3 (.ofSeconds 5) ⟨0⟩).runAll besideOthers = .ok (batches, c) ∧
        Roomy besideOthers batches ∧ (batches.map fun batch => batch.map Record.id)
          = [[], [], [], [], [.tcpFrom 1 3, .tcpFrom 2 3], [], [.tcpFrom 3 3, .tcpFrom 2 3]] := by
    refine ⟨_, _, rfl, ?_, rfl⟩
    unfold Roomy HasRoom
    decide
  have hsame : ∀ id, beforeOthers.filter (·.concerns id) = besideOthers.filter (·.concerns id) := by
    intro id
    by_cases h₁ : .tcpFrom 1 3 = id
    · rw [← h₁]
      rfl
    · by_cases h₂ : .tcpFrom 2 3 = id
      · rw [← h₂]
        rfl
      · by_cases h₃ : .tcpFrom 3 3 = id <;> simp [beforeOthers, besideOthers, concerns, h₁, h₂, h₃]
  have hfits := ((alone_empty (.tcpFrom 2 3) 3 (.ofSeconds 5) ⟨0⟩).runAll_answers_iff hrun hroomy).1
    ⟨_, rfl⟩
  obtain ⟨hisolated, hreorder⟩ := runAll_isolates hrun hroomy
  obtain ⟨batches', c', hrun', -, hreports⟩ := hreorder beforeOthers hsame
  exact ⟨batches, c, hrun, hroomy, hids, (hisolated (.tcpFrom 2 3)).2 hfits, batches', c', hrun',
    fun id => (hreports id).1⟩

/-- A timeout of 2 ^ 63 - 1 seconds, less a thousand million. -/
def ages : Duration := ⟨(UInt64.size / 2 - 1 - 1000000000) * nanosPerSecond, by decide⟩

/-- Two flows, the second one two thousand million seconds after the first. -/
def farApart : List Operation :=
  [.insert ⟨.tcpFrom 2 3, .ofPacket 70 6⟩ 0, .insert ⟨.tcpFrom 1 3, .ofPacket 60 5⟩ 2000000000000000000,
    .expire 2000000000000000000]

/-- The expiry stops at the first flow. Without that, it has to compute when the second one is due,
and this overflows. -/
theorem not_isolated_farApart :
    ∃ batches c, (empty 2 ages ⟨0⟩).runAll farApart = .ok (batches, c) ∧ Roomy farApart batches ∧
      ¬ (empty 2 ages ⟨0⟩).Isolated farApart batches (.tcpFrom 1 3) := by
  have hroomy : Roomy farApart [[], [], []] := by
    unfold Roomy HasRoom
    decide
  refine ⟨[[], [], []], _, rfl, hroomy, ?_⟩
  rintro ⟨kept, c', hkept, -⟩
  have hfails : (empty 2 ages ⟨0⟩).runAll (farApart.filter (·.concerns (.tcpFrom 1 3)))
      = .error .addToInstant := by rfl
  rw [hfails] at hkept
  cases hkept

end Cache

end Flowmeter
