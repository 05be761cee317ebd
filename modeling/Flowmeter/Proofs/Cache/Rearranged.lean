-- SUMMARY: Samples of different flows can be inserted in any order, as long as there is room.
import Flowmeter.Proofs.Cache.PerFlow

/-!
# Rearranged runs

Two runs treat each flow alike if the same operations concern it. Their
insertions may stand in different orders, and then the caches list their
entries in different orders on the way. The orders of eviction are the same, so
that nothing else differs. What is shown here is that in both runs there is
room for all samples, or in none. It takes an exchange of two insertions that
follow each other, and that any rearrangement is made up of these.
-/

namespace Flowmeter

namespace Cache

open Operation

/-! ## Room for a sample -/

theorem WellFormed.size_insert_of_room {c c' : Cache} (h : c.WellFormed) {r : RawRecord}
    {now : Instant} (heq : c.insert r now = (none, c')) :
    c'.size = c.size + if c.find? r.id = none then 1 else 0 := by
  obtain ⟨e, hfind, rfl⟩ | ⟨hnew, -, rfl⟩ := h.cases_of_insert_eq_none heq
  · rw [size_mergeInto, hfind, if_neg nofun, Nat.add_zero]
  · rw [size_addEntry, if_pos hnew]

theorem WellFormed.exists_insert_iff {c : Cache} (h : c.WellFormed) {r : RawRecord}
    {now : Instant} :
    (∃ c', c.insert r now = (none, c')) ↔ (c.find? r.id = none → c.size < c.capacity) := by
  constructor
  · rintro ⟨c', heq⟩ hnew
    obtain ⟨e, hfind, -⟩ | ⟨-, hroom, -⟩ := h.cases_of_insert_eq_none heq
    · rw [hfind] at hnew
      cases hnew
    · exact hroom
  · intro hroom
    cases hfind : c.find? r.id with
    | some e => exact ⟨_, insert_of_cached hfind now⟩
    | none => exact ⟨_, insert_of_room hfind (hroom hfind) now⟩

/-! ## Caches that differ in the order of their entries only -/

/-- Both caches hold the same entries. -/
structure Alike (c d : Cache) : Prop where
  wellFormed : c.WellFormed
  wellFormed_other : d.WellFormed
  settings : SameSettings c d
  find?_eq : ∀ id, d.find? id = c.find? id

namespace Alike

variable {c c₁ c' d d₁ : Cache} {op : Operation} {ops : List Operation} {batch : Batch}

theorem order_eq (h : Alike c d) : d.order = c.order := by
  have hmem : ∀ r, r ∈ d.order ↔ r ∈ c.order := by
    intro r
    rw [← h.wellFormed.createdAt_eq_some_iff, ← h.wellFormed_other.createdAt_eq_some_iff,
      createdAt, createdAt, h.find?_eq]
  have hperm : d.order.Perm c.order :=
    (List.perm_ext_iff_of_nodup h.wellFormed_other.order_ascending.nodup
      h.wellFormed.order_ascending.nodup).2 hmem
  refine hperm.eq_of_pairwise (fun r s _ _ hlt hgt => ?_) h.wellFormed_other.order_ascending
    h.wellFormed.order_ascending
  have heq := hlt.symm.trans (Std.OrientedCmp.gt_iff_lt.2 hgt)
  cases heq

theorem size_eq (h : Alike c d) : d.size = c.size := by
  rw [← h.wellFormed.length_order, ← h.wellFormed_other.length_order, h.order_eq]

theorem dropFirst (h : Alike c d) {first : Rank} {ranks : List Rank}
    (horder : c.order = first :: ranks) :
    Alike (c.dropFirst first ranks) (d.dropFirst first ranks) where
  wellFormed := h.wellFormed.dropFirst horder
  wellFormed_other := h.wellFormed_other.dropFirst (h.order_eq.trans horder)
  settings := ⟨h.settings.capacity_eq, h.settings.timeout_eq, h.settings.clock_eq⟩
  find?_eq id := by rw [find?_dropFirst, find?_dropFirst, h.find?_eq]

/-- Both are looked through in the same order. -/
theorem expireUpTo (h : Alike c d) {count : Nat} {now : Instant}
    (heq : Cache.expireUpTo count c now = .ok (batch, c₁)) :
    ∃ d₁, Cache.expireUpTo count d now = .ok (batch, d₁) := by
  induction count generalizing c d batch with
  | zero =>
    obtain ⟨rfl, -⟩ := Prod.mk.inj (Except.ok.inj heq)
    exact ⟨d, rfl⟩
  | succ count ih =>
    rw [Cache.expireUpTo] at heq ⊢
    rw [h.order_eq]
    split at heq
    · obtain ⟨rfl, -⟩ := Prod.mk.inj (Except.ok.inj heq)
      exact ⟨d, rfl⟩
    · next first ranks horder =>
      rw [h.settings.timeout_eq]
      obtain ⟨due, hdue, heq⟩ := bind_eq_ok.1 heq
      obtain ⟨e, hfirst, -⟩ := h.wellFormed.find?_first horder
      have hpop' := pop_cons (h.order_eq.trans horder) ((h.find?_eq _).trans hfirst)
      split at heq
      · next hearly =>
        obtain ⟨rfl, -⟩ := Prod.mk.inj (Except.ok.inj heq)
        exact ⟨d, bind_eq_ok.2 ⟨due, hdue, if_pos hearly⟩⟩
      · next hlate =>
        simp only [pop_cons horder hfirst] at heq
        obtain ⟨⟨later, c₂⟩, hlater, heq⟩ := bind_eq_ok.1 heq
        obtain ⟨rfl, rfl⟩ := Prod.mk.inj (Except.ok.inj heq)
        obtain ⟨d₁, hlater'⟩ := ih (h.dropFirst horder) hlater
        refine ⟨d₁, bind_eq_ok.2 ⟨due, hdue, ?_⟩⟩
        simp only [if_neg hlate, hpop']
        refine bind_eq_ok.2 ⟨_, hlater', ?_⟩
        rw [h.settings.clock_eq]
        rfl

/-- An insertion for which there is room in one has room in the other. -/
theorem insert_room (h : Alike c d) {r : RawRecord} {now : Instant}
    (heq : c.insert r now = (none, c₁)) : ∃ d₁, d.insert r now = (none, d₁) := by
  rw [h.wellFormed_other.exists_insert_iff, h.find?_eq, h.size_eq, h.settings.capacity_eq,
    ← h.wellFormed.exists_insert_iff]
  exact ⟨c₁, heq⟩

theorem agree (h : Alike c d) (id : FlowId) : Agree id c d :=
  ⟨h.wellFormed, h.wellFormed_other, h.settings, h.find?_eq id⟩

/-- An operation for which there is room in one has a result, and room, in the other. -/
theorem exists_apply (h : Alike c d) (heq : op.apply c = .ok (batch, c₁))
    (hroom : op.HasRoom batch) :
    ∃ batch' d₁, op.apply d = .ok (batch', d₁) ∧ op.HasRoom batch' := by
  cases op with
  | insert r now =>
    obtain ⟨d₁, hinsert⟩ := h.insert_room (insert_eq_of_apply heq hroom).2
    exact ⟨[], d₁, apply_insert hinsert, fun _ => rfl⟩
  | expire now =>
    obtain ⟨d₁, hexpire⟩ := h.expireUpTo heq
    refine ⟨batch, d₁, ?_, hroom⟩
    rw [Operation.apply, Cache.expire, h.order_eq]
    exact hexpire
  | drain => exact ⟨_, _, rfl, fun hop => absurd rfl hop⟩

theorem roomFor (h : Alike c d) (hroom : c.RoomFor ops) : d.RoomFor ops := by
  induction ops generalizing c d with
  | nil => exact ⟨[], d, rfl, fun x hx => nomatch hx⟩
  | cons op ops ih =>
    obtain ⟨batch, c₁, heq, hbatch, hlater⟩ := roomFor_cons.1 hroom
    obtain ⟨batch', d₁, heq', hbatch'⟩ := h.exists_apply heq hbatch
    have h₁ := fun id => (h.agree id).apply heq hbatch heq' hbatch'
    have halike : Alike c₁ d₁ := ⟨apply_wellFormed h.wellFormed heq,
      apply_wellFormed h.wellFormed_other heq', (h₁ (.tcpFrom 0 0)).settings,
      fun id => (h₁ id).find?_eq⟩
    exact roomFor_cons.2 ⟨batch', d₁, heq', hbatch', ih halike hlater⟩

end Alike

/-! ## Inserting in another order -/

theorem runAll_insert_insert {c c₁ c₂ : Cache} {r s : RawRecord} {t u : Instant}
    (hr : c.insert r t = (none, c₁)) (hs : c₁.insert s u = (none, c₂)) :
    c.runAll [.insert r t, .insert s u] = .ok ([[], []], c₂) :=
  runAll_cons_eq_ok.2 ⟨[], c₁, [[]], apply_insert hr,
    runAll_cons_eq_ok.2 ⟨[], c₂, [], apply_insert hs, rfl, rfl⟩, rfl⟩

/-- The insertions of two flows concern each of them in the same way in either order. -/
theorem filter_concerns_swap {r s : RawRecord} {t u : Instant} (hne : r.id ≠ s.id) (id : FlowId) :
    [Operation.insert s u, .insert r t].filter (·.concerns id)
      = [Operation.insert r t, .insert s u].filter (·.concerns id) := by
  by_cases hr : r.id = id
  · have hs : s.id ≠ id := fun hs => hne (hr.trans hs.symm)
    simp [concerns, hr, hs]
  · by_cases hs : s.id = id <;> simp [concerns, hr, hs]

namespace WellFormed

variable {c : Cache} {op : Operation} {ops : List Operation}

/-- Two insertions of different flows can change places. -/
theorem roomFor_swap (h : c.WellFormed) {r s : RawRecord} {t u : Instant} (hne : r.id ≠ s.id)
    (hroom : c.RoomFor (.insert r t :: .insert s u :: ops)) :
    c.RoomFor (.insert s u :: .insert r t :: ops) := by
  obtain ⟨c₁, hr, hroom⟩ := roomFor_insert_cons.1 hroom
  obtain ⟨c₂, hs, hroom⟩ := roomFor_insert_cons.1 hroom
  have h₁ := apply_wellFormed h (apply_insert hr)
  have h₂ := apply_wellFormed h₁ (apply_insert hs)
  have hsettings := sameSettings_apply h (apply_insert hr)
  have hsettings₂ := hsettings.trans (sameSettings_apply h₁ (apply_insert hs))
  have hsize₁ := h.size_insert_of_room hr
  have hsize₂ := h₁.size_insert_of_room hs
  have hfull := h₂.size_le
  have hfind : c₁.find? s.id = c.find? s.id := by rw [h.find?_insert hr, if_neg (Ne.symm hne)]
  rw [hfind] at hsize₂
  rw [hsettings₂.capacity_eq] at hfull
  obtain ⟨d₁, hs'⟩ : ∃ d₁, c.insert s u = (none, d₁) := by
    refine h.exists_insert_iff.2 fun hnew => ?_
    rw [if_pos hnew] at hsize₂
    omega
  have h₁' := apply_wellFormed h (apply_insert hs')
  have hsettings' := sameSettings_apply h (apply_insert hs')
  have hsize₁' := h.size_insert_of_room hs'
  obtain ⟨d₂, hr'⟩ : ∃ d₂, d₁.insert r t = (none, d₂) := by
    refine h₁'.exists_insert_iff.2 fun hnew => ?_
    rw [h.find?_insert hs', if_neg hne] at hnew
    rw [if_pos hnew] at hsize₁
    rw [hsettings'.capacity_eq]
    omega
  have hrun := runAll_insert_insert hr hs
  have hrun' := runAll_insert_insert hs' hr'
  have halike : Alike c₂ d₂ := by
    refine ⟨h₂, apply_wellFormed h₁' (apply_insert hr'), ?_, fun id => ?_⟩
    · exact hsettings₂.symm.trans
        (hsettings'.trans (sameSettings_apply h₁' (apply_insert hr')))
    · exact (h.runAll_congr hrun (by simp [Roomy, HasRoom]) hrun' (by simp [Roomy, HasRoom])
        (filter_concerns_swap hne id)).2
  exact roomFor_insert_cons.2 ⟨d₁, hs', roomFor_insert_cons.2 ⟨d₂, hr', halike.roomFor hroom⟩⟩

/-- An insertion can be put behind those of other flows. -/
theorem roomFor_sink (h : c.WellFormed) {pre post : List Operation}
    (hpre : ∀ x ∈ pre, ∃ s u, x = .insert s u ∧ ¬ op.concerns s.id)
    (hroom : c.RoomFor (op :: (pre ++ post))) : c.RoomFor (pre ++ op :: post) := by
  induction pre generalizing c with
  | nil => exact hroom
  | cons x pre ih =>
    obtain ⟨⟨s, u, rfl, hid⟩, hrest⟩ := List.forall_mem_cons.1 hpre
    obtain ⟨r, t, rfl, hne⟩ := eq_insert_of_not_concerns hid
    obtain ⟨c₁, hs, hroom⟩ := roomFor_insert_cons.1 (h.roomFor_swap hne hroom)
    have h₁ := apply_wellFormed h (apply_insert hs)
    exact roomFor_insert_cons.2 ⟨c₁, hs, ih h₁ hrest hroom⟩

end WellFormed

/-- Every operation concerns some flow. -/
theorem exists_concerns (op : Operation) : ∃ id, op.concerns id := by
  cases op with
  | insert r now => exact ⟨r.id, concerns_insert.2 rfl⟩
  | expire now => exact ⟨.tcpFrom 0 0, rfl⟩
  | drain => exact ⟨.tcpFrom 0 0, rfl⟩

/-- If the same operations concern each flow, the first one stands, in the other order, behind
insertions of flows that it does not concern. -/
theorem exists_eq_append_of_filter_eq {op : Operation} {ops ops' : List Operation}
    (hsame : ∀ id, ops'.filter (·.concerns id) = (op :: ops).filter (·.concerns id)) :
    ∃ pre post, ops' = pre ++ op :: post ∧
      (∀ x ∈ pre, ∃ s u, x = .insert s u ∧ ¬ op.concerns s.id) ∧
      ∀ id, (pre ++ post).filter (·.concerns id) = ops.filter (·.concerns id) := by
  obtain ⟨id, hid⟩ := exists_concerns op
  have hfirst := hsame id
  rw [List.filter_cons_of_pos hid] at hfirst
  obtain ⟨pre, post, rfl, hpre, -, -⟩ := List.filter_eq_cons_iff.1 hfirst
  -- What stands in front concerns no flow that the first one concerns, or it would come first.
  have hnone : ∀ other, op.concerns other → pre.filter (·.concerns other) = [] := by
    intro other hother
    have heq := hsame other
    rw [List.filter_append, List.filter_cons_of_pos hother, List.filter_cons_of_pos hother] at heq
    cases hfront : pre.filter (·.concerns other) with
    | nil => rfl
    | cons x front =>
      rw [hfront] at heq
      obtain rfl : x = op := (List.cons.inj heq).1
      have hx : x ∈ pre := List.mem_of_mem_filter (hfront ▸ List.mem_cons_self)
      exact absurd hid (hpre x hx)
  refine ⟨pre, post, rfl, fun x hx => ?_, fun other => ?_⟩
  · obtain ⟨s, u, rfl, -⟩ := eq_insert_of_not_concerns (hpre x hx)
    refine ⟨s, u, rfl, fun hs => ?_⟩
    exact List.filter_eq_nil_iff.1 (hnone s.id hs) _ hx (concerns_insert.2 rfl)
  · have heq := hsame other
    rw [List.filter_append] at heq ⊢
    by_cases hother : op.concerns other
    · rw [hnone other hother, List.filter_cons_of_pos hother, List.filter_cons_of_pos hother] at heq
      rw [hnone other hother]
      exact (List.cons.inj heq).2
    · rwa [List.filter_cons_of_neg hother, List.filter_cons_of_neg hother] at heq

/-- If the same operations concern each flow, there is room for all samples in the one order if
there is in the other. -/
theorem WellFormed.roomFor_of_filter_eq {c : Cache} (h : c.WellFormed) {ops ops' : List Operation}
    (hsame : ∀ id, ops'.filter (·.concerns id) = ops.filter (·.concerns id))
    (hroom : c.RoomFor ops) : c.RoomFor ops' := by
  induction ops generalizing c ops' with
  | nil =>
    have hnil : ops' = [] := by
      refine List.eq_nil_iff_forall_not_mem.2 fun op hop => ?_
      obtain ⟨id, hid⟩ := exists_concerns op
      exact List.filter_eq_nil_iff.1 (hsame id) op hop hid
    rwa [hnil]
  | cons op ops ih =>
    obtain ⟨pre, post, rfl, hpre, hrest⟩ := exists_eq_append_of_filter_eq hsame
    obtain ⟨batch, c₁, hop, hbatch, hlater⟩ := roomFor_cons.1 hroom
    refine h.roomFor_sink hpre (roomFor_cons.2 ⟨batch, c₁, hop, hbatch, ?_⟩)
    exact ih (apply_wellFormed h hop) hrest hlater

end Cache

end Flowmeter
