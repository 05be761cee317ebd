-- SUMMARY: What an expiry and an insertion do to each single entry of a cache.
import Flowmeter.Proofs.Cache.Reachable
import Flowmeter.Proofs.Cache.Size
import Mathlib.Data.List.Basic

/-!
# Entry by entry

An expiry evicts the entries that are due, oldest first, and touches no other.
It goes by the order, so that this is what happens to the entries follows from
the order being an index of them. An insertion merges into one entry or adds
one, and in a full cache the least entry leaves for the new one.
-/

namespace Flowmeter

namespace Cache

/-! ## The order of entries -/

/-- By creation, and entries created at one instant by flow. -/
def Precedes (x y : FlowId × Entry) : Prop :=
  x.2.created < y.2.created ∨ x.2.created = y.2.created ∧ x.1.cmp y.1 = .lt

theorem compare_rankOf_eq_lt_iff {x y : FlowId × Entry} :
    compare (rankOf x) (rankOf y) = .lt ↔ Precedes x y := by
  have hlex : compare (rankOf x) (rankOf y)
      = (compare x.2.created y.2.created).then (x.1.cmp y.1) := rfl
  rw [hlex, Ordering.then_eq_lt, Nat.compare_eq_lt, Nat.compare_eq_eq, Precedes]

/-- The flow and the entry that a rank leads to. -/
def entryAt? (c : Cache) (r : Rank) : Option (FlowId × Entry) := (c.find? r.id).map (Prod.mk r.id)

/-- What an entry leaves as. -/
def leave (clock : Clock) (x : FlowId × Entry) : Record := .ofMetrics clock x.1 x.2.metrics

theorem recordOf?_eq (c : Cache) (r : Rank) : c.recordOf? r = (c.entryAt? r).map (leave c.clock) := by
  rw [recordOf?, entryAt?, Option.map_map]
  rfl

namespace WellFormed

variable {c : Cache}

theorem rankOf_mem_order (h : c.WellFormed) {x : FlowId × Entry} (hx : x ∈ c.entries) :
    rankOf x ∈ c.order :=
  (h.mem_order_iff (rankOf x)).2 ⟨x.2, hx, rfl⟩

theorem length_order (h : c.WellFormed) : c.order.length = c.size := by
  rw [h.order_perm.length_eq, List.length_map, size]

theorem entryAt?_rankOf (h : c.WellFormed) {x : FlowId × Entry} (hx : x ∈ c.entries) :
    c.entryAt? (rankOf x) = some x := by
  have hfind : c.find? x.1 = some x.2 := h.find?_eq_some_iff.2 hx
  rw [entryAt?, rankOf, hfind]
  rfl

theorem map_rankOf_entryAt? (h : c.WellFormed) {r : Rank} (hr : r ∈ c.order) :
    (c.entryAt? r).map rankOf = some r := by
  obtain ⟨x, hx, rfl⟩ := List.mem_map.1 (h.order_perm.mem_iff.1 hr)
  rw [h.entryAt?_rankOf hx]
  rfl

/-- The entries of some ranks are some of the entries. -/
theorem filterMap_entryAt?_perm (h : c.WellFormed) (p : Rank → Bool) :
    ((c.order.filter p).filterMap c.entryAt?).Perm (c.entries.filter fun x => p (rankOf x)) := by
  have hperm := (h.order_perm.filter p).filterMap c.entryAt?
  have hentries : ((c.entries.map rankOf).filter p).filterMap c.entryAt?
      = c.entries.filter fun x => p (rankOf x) := by
    rw [List.filter_map, List.filterMap_map]
    refine (List.filterMap_congr fun x hx => ?_).trans List.filterMap_some
    exact h.entryAt?_rankOf (List.mem_of_mem_filter hx)
  rwa [hentries] at hperm

theorem pairwise_filterMap_entryAt? (h : c.WellFormed) (p : Rank → Bool) :
    ((c.order.filter p).filterMap c.entryAt?).Pairwise Precedes := by
  have hranks : ((c.order.filter p).filterMap c.entryAt?).map rankOf = c.order.filter p := by
    rw [List.map_filterMap]
    refine (List.filterMap_congr fun r hr => ?_).trans List.filterMap_some
    exact h.map_rankOf_entryAt? (List.mem_of_mem_filter hr)
  have hascending : Rank.Ascending (c.order.filter p) :=
    List.Pairwise.sublist List.filter_sublist h.order_ascending
  rw [← hranks, Rank.Ascending, List.pairwise_map] at hascending
  exact hascending.imp compare_rankOf_eq_lt_iff.1

end WellFormed

/-! ## Expiring -/

instance (c : Cache) (now created : Instant) : Decidable (c.IsDue now created) := Nat.decLe _ _

/-- The cache without the entries that are due. -/
def keepFresh (c : Cache) (now : Instant) : Cache :=
  { c with
    entries := c.entries.filter fun x => ¬ c.IsDue now x.2.created
    order := c.order.filter fun r => ¬ c.IsDue now r.created }

namespace WellFormed

variable {c : Cache} {now : Instant}

theorem keepFresh_eq_self (h : c.WellFormed) (hnone : ∀ r ∈ c.order, ¬ c.IsDue now r.created) :
    c.keepFresh now = c := by
  have hentries : (c.entries.filter fun x => ¬ c.IsDue now x.2.created) = c.entries := by
    refine List.filter_eq_self.2 fun x hx => ?_
    exact decide_eq_true (hnone _ (h.rankOf_mem_order hx))
  have horder : (c.order.filter fun r => ¬ c.IsDue now r.created) = c.order := by
    refine List.filter_eq_self.2 fun r hr => ?_
    simpa using hnone r hr
  rw [keepFresh, hentries, horder]

/-- Popping an entry that is due takes none away that is to be kept. -/
theorem keepFresh_dropFirst (h : c.WellFormed) {first : Rank} {ranks : List Rank}
    (horder : c.order = first :: ranks) (hdue : c.IsDue now first.created) :
    (c.dropFirst first ranks).keepFresh now = c.keepFresh now := by
  obtain ⟨e, hfind, hcreated⟩ := h.find?_first horder
  have hentries : ((c.entries.filter (·.1 ≠ first.id)).filter fun x => ¬ c.IsDue now x.2.created)
      = c.entries.filter fun x => ¬ c.IsDue now x.2.created := by
    rw [List.filter_filter]
    refine List.filter_congr fun x hx => ?_
    by_cases hid : x.1 = first.id
    · have hx' : c.find? x.1 = some x.2 := h.find?_eq_some_iff.2 hx
      rw [hid, hfind] at hx'
      obtain rfl := Option.some.inj hx'
      simp [hid, hcreated, hdue]
    · simp [hid]
  have hranks : (ranks.filter fun r => ¬ c.IsDue now r.created)
      = c.order.filter fun r => ¬ c.IsDue now r.created := by
    simp [horder, hdue]
  calc (c.dropFirst first ranks).keepFresh now
      = { c with
          entries := (c.entries.filter (·.1 ≠ first.id)).filter fun x => ¬ c.IsDue now x.2.created
          order := ranks.filter fun r => ¬ c.IsDue now r.created } := rfl
    _ = c.keepFresh now := by rw [hentries, hranks, keepFresh]

/-- The entry that is popped leaves first, and does not change what leaves after it. -/
theorem filterMap_recordOf?_due (h : c.WellFormed) {first : Rank} {ranks : List Rank} {e : Entry}
    (horder : c.order = first :: ranks) (hfirst : c.find? first.id = some e)
    (hdue : c.IsDue now first.created) :
    (c.order.filter fun r => c.IsDue now r.created).filterMap c.recordOf?
      = leave c.clock (first.id, e)
        :: (ranks.filter fun r => c.IsDue now r.created).filterMap
          (c.dropFirst first ranks).recordOf? := by
  have hrecord : c.recordOf? first = some (leave c.clock (first.id, e)) := by
    simp [recordOf?, hfirst, leave]
  rw [horder, List.filter_cons_of_pos (by simpa using hdue), List.filterMap_cons_some hrecord]
  refine congrArg _ (List.filterMap_congr fun r hr => ?_)
  have hmem : r ∈ ranks := List.mem_of_mem_filter hr
  exact (recordOf?_dropFirst ranks (h.id_ne_first horder hmem)).symm

/-- If no sum overflows, an expiry with time enough evicts what is due and keeps the rest. -/
theorem expireUpTo_eq (h : c.WellFormed) {count : Nat} (hcount : c.order.length ≤ count)
    (hfits : ∀ r ∈ c.order, r.created + c.timeout.nanos < Instant.limit) :
    expireUpTo count c now
      = .ok ((c.order.filter fun r => c.IsDue now r.created).filterMap c.recordOf?,
        c.keepFresh now) := by
  induction count generalizing c with
  | zero =>
    have hnil : c.order = [] := List.length_eq_zero_iff.1 (Nat.le_zero.1 hcount)
    rw [expireUpTo, h.keepFresh_eq_self (by simp [hnil]), hnil]
    rfl
  | succ count ih =>
    rw [expireUpTo]
    split
    · next hnil =>
      rw [h.keepFresh_eq_self (by simp [hnil]), hnil]
      rfl
    · next first ranks horder =>
      have hadd : Instant.add first.created c.timeout = .ok (first.created + c.timeout.nanos) :=
        Instant.add_eq_ok_iff.2 ⟨hfits first (by simp [horder]), rfl⟩
      refine bind_eq_ok.2 ⟨_, hadd, ?_⟩
      split
      · next hearly =>
        have hnone := h.not_isDue_of_first horder (Nat.not_le.2 hearly)
        have hdue : (c.order.filter fun r => c.IsDue now r.created) = [] :=
          List.filter_eq_nil_iff.2 fun r hr => by simpa using hnone r hr
        rw [h.keepFresh_eq_self hnone, hdue]
        rfl
      · next hlate =>
        have hdue : c.IsDue now first.created := Nat.not_lt.1 hlate
        obtain ⟨e, hfirst, -⟩ := h.find?_first horder
        have hlater := ih (h.dropFirst horder)
          (by rw [horder] at hcount; exact Nat.le_of_succ_le_succ hcount)
          (fun r hr => hfits r (by rw [horder]; exact List.mem_cons_of_mem _ hr))
        simp only [pop_cons horder hfirst]
        refine bind_eq_ok.2 ⟨_, hlater, ?_⟩
        rw [h.filterMap_recordOf?_due horder hfirst hdue, ← h.keepFresh_dropFirst horder hdue]
        rfl

end WellFormed

/-- In each state of a cache, at any instant, an expiry evicts each entry that has lived for
the timeout as one record of its metrics, in the order of creation and, of entries created
at one instant, of the flows. All other entries stay as they are, in the order in which they
were. The expiry ends by itself: with more steps it would do the same. -/
theorem Reachable.expire_evicts_due {max : Nat} {timeout : Duration} {clock : Clock} {c : Cache}
    (h : Reachable max timeout clock c) (now : Instant)
    (hfits : ∀ x ∈ c.entries, x.2.created + timeout.nanos < Instant.limit) :
    ∃ (evicted : List (FlowId × Entry)) (c' : Cache),
      c.expire now = .ok (evicted.map fun x => .ofMetrics clock x.1 x.2.metrics, c') ∧
      (∀ count, c.order.length ≤ count → expireUpTo count c now = c.expire now) ∧
      evicted.Perm (c.entries.filter fun x => x.2.created + timeout.nanos ≤ now) ∧
      (evicted.map Prod.fst).Nodup ∧
      evicted.Pairwise (fun x y => x.2.created < y.2.created ∨
        x.2.created = y.2.created ∧ x.1.cmp y.1 = .lt) ∧
      c'.entries = (c.entries.filter fun x => ¬ x.2.created + timeout.nanos ≤ now) ∧
      c'.order = (c.order.filter fun r => ¬ r.created + timeout.nanos ≤ now) ∧
      SameSettings c c' := by
  have hc := h.wellFormed
  obtain rfl : c.timeout = timeout := h.sameSettings.timeout_eq
  obtain rfl : c.clock = clock := h.sameSettings.clock_eq
  let evicted := (c.order.filter fun r => c.IsDue now r.created).filterMap c.entryAt?
  have hexpire : ∀ count, c.order.length ≤ count →
      expireUpTo count c now = .ok (evicted.map (leave c.clock), c.keepFresh now) := by
    intro count hcount
    have hfits' : ∀ r ∈ c.order, r.created + c.timeout.nanos < Instant.limit := by
      intro r hr
      obtain ⟨x, hx, rfl⟩ := List.mem_map.1 (hc.order_perm.mem_iff.1 hr)
      exact hfits x hx
    rw [hc.expireUpTo_eq hcount hfits', List.map_filterMap]
    exact congrArg (fun batch => Except.ok (batch, c.keepFresh now))
      (List.filterMap_congr fun r _ => c.recordOf?_eq r)
  have hperm : evicted.Perm (c.entries.filter fun x => c.IsDue now x.2.created) :=
    hc.filterMap_entryAt?_perm fun r => c.IsDue now r.created
  have hids : (evicted.map Prod.fst).Nodup :=
    (hperm.map Prod.fst).nodup_iff.2 (hc.ids_nodup.sublist (List.filter_sublist.map _))
  have henough := hexpire _ (Nat.le_refl _)
  exact ⟨evicted, c.keepFresh now, henough,
    fun count hcount => (hexpire count hcount).trans henough.symm, hperm, hids,
    hc.pairwise_filterMap_entryAt? _, rfl, rfl, rfl, rfl, rfl⟩

/-- The flow that came second is the older one of the two that are left in `threeFlows`, and
is due when the other is not. -/
theorem expire_evicts_due_threeFlows :
    Reachable 2 (.ofSeconds 5) ⟨0⟩ threeFlows ∧
    (∀ x ∈ threeFlows.entries, x.2.created + (Duration.ofSeconds 5).nanos < Instant.limit) ∧
    ∃ (evicted : List (FlowId × Entry)) (c' : Cache),
      threeFlows.expire 5000000015
        = .ok (evicted.map fun x => .ofMetrics ⟨0⟩ x.1 x.2.metrics, c') ∧
      evicted.map rankOf = [⟨15, .tcpFrom 3 3⟩] ∧
      c'.order = [⟨20, .tcpFrom 1 3⟩] := by
  have hreach : Reachable 2 (.ofSeconds 5) ⟨0⟩ threeFlows :=
    .insert _ _ (.insert _ _ (.insert _ _ .empty))
  have hfits : ∀ x ∈ threeFlows.entries,
      x.2.created + (Duration.ofSeconds 5).nanos < Instant.limit := by decide
  obtain ⟨evicted, c', hexpire, -, hperm, -, -, -, horder, -⟩ :=
    hreach.expire_evicts_due 5000000015 hfits
  refine ⟨hreach, hfits, evicted, c', hexpire, ?_, horder⟩
  exact List.perm_singleton.1 (hperm.map rankOf)

/-! ## Inserting -/

/-- Taking out what was put in leaves what was there, in the order in which it was. -/
theorem Rank.erase_insert {r : Rank} {ranks : List Rank} (h : r ∉ ranks) :
    (Rank.insert r ranks).erase r = ranks := by
  induction ranks with
  | nil => simp [Rank.insert]
  | cons s ranks ih =>
    obtain ⟨hne, hrest⟩ := not_or.1 (mt List.mem_cons.2 h)
    rw [Rank.insert]
    split
    · exact List.erase_cons_head r (s :: ranks)
    · next heq => exact absurd (Std.LawfulEqOrd.eq_of_compare heq) hne
    · rw [List.erase_cons_tail (by simpa using Ne.symm hne), ih hrest]

namespace WellFormed

variable {c : Cache}

theorem not_mem_order (h : c.WellFormed) {id : FlowId} (hnew : c.find? id = none) (now : Instant) :
    ⟨now, id⟩ ∉ c.order := by
  intro hmem
  have hcreated := h.createdAt_eq_some_iff.2 hmem
  rw [createdAt, hnew] at hcreated
  cases hcreated

theorem size_dropFirst (h : c.WellFormed) {first : Rank} {ranks : List Rank}
    (horder : c.order = first :: ranks) : (c.dropFirst first ranks).size + 1 = c.size := by
  rw [← h.length_order, ← (h.dropFirst horder).length_order, horder]
  rfl

theorem rankOf_first (h : c.WellFormed) {first : Rank} {ranks : List Rank}
    (horder : c.order = first :: ranks) {e : Entry} (hfirst : c.find? first.id = some e) :
    rankOf (first.id, e) = first := by
  obtain ⟨e', hfirst', hcreated⟩ := h.find?_first horder
  obtain rfl : e = e' := Option.some.inj (hfirst.symm.trans hfirst')
  rw [rankOf, hcreated]

/-- Every other entry comes after the one with the least rank. -/
theorem precedes_of_first (h : c.WellFormed) {first : Rank} {ranks : List Rank}
    (horder : c.order = first :: ranks) {e e' : Entry} (hfirst : c.find? first.id = some e)
    {id : FlowId} (hfind : c.find? id = some e') (hne : id ≠ first.id) :
    Precedes (first.id, e) (id, e') := by
  have hrank : rankOf (id, e') ∈ ranks := by
    have hmem := h.rankOf_mem_order (h.find?_eq_some_iff.1 hfind)
    rw [horder] at hmem
    exact (List.mem_cons.1 hmem).resolve_left fun heq => hne (congrArg Rank.id heq)
  have hascending := h.order_ascending
  rw [horder] at hascending
  rw [← compare_rankOf_eq_lt_iff, h.rankOf_first horder hfirst]
  exact (List.pairwise_cons.1 hascending).1 _ hrank

end WellFormed

/-- In each state of a cache, at any instant, a sample of a flow that is in the cache is merged
into its entry and nothing else changes, be the cache full or not. A sample of another flow
gets an entry, created at that instant. If the cache is full, the least entry, by creation and
then by flow, leaves as it was. What stays keeps its place in the order of eviction. -/
theorem Reachable.insert_merges_or_adds {max : Nat} {timeout : Duration} {clock : Clock}
    {c : Cache} (h : Reachable max timeout clock c) (r : RawRecord) (now : Instant) :
    (∀ e, c.find? r.id = some e →
      ∃ c', c.insert r now = (none, c') ∧ c'.size = c.size ∧ c'.order = c.order ∧
        SameSettings c c' ∧
        ∀ id, c'.find? id
          = if id = r.id then some ⟨e.metrics.merge r.metrics, e.created⟩ else c.find? id) ∧
    (c.find? r.id = none → c.size < Nat.max 1 max →
      ∃ c', c.insert r now = (none, c') ∧ c'.size = c.size + 1 ∧
        ⟨now, r.id⟩ ∈ c'.order ∧ c'.order.erase ⟨now, r.id⟩ = c.order ∧ SameSettings c c' ∧
        ∀ id, c'.find? id = if id = r.id then some ⟨r.metrics, now⟩ else c.find? id) ∧
    (c.find? r.id = none → Nat.max 1 max ≤ c.size →
      ∃ least e c', c.find? least = some e ∧
        (∀ id e', c.find? id = some e' → id ≠ least →
          e.created < e'.created ∨ e.created = e'.created ∧ least.cmp id = .lt) ∧
        c.insert r now = (some (.ofMetrics clock least e.metrics), c') ∧ c'.size = c.size ∧
        ⟨now, r.id⟩ ∈ c'.order ∧
        c'.order.erase ⟨now, r.id⟩ = c.order.erase ⟨e.created, least⟩ ∧ SameSettings c c' ∧
        ∀ id, c'.find? id = if id = r.id then some ⟨r.metrics, now⟩
          else if id = least then none else c.find? id) := by
  have hc := h.wellFormed
  obtain rfl : c.clock = clock := h.sameSettings.clock_eq
  rw [← h.capacity_eq]
  have hsettings := hc.sameSettings_insert r now
  refine ⟨fun e hfind => ?_, fun hnew hroom => ?_, fun hnew hfull => ?_⟩
  · rw [insert_of_cached hfind now] at hsettings ⊢
    refine ⟨_, rfl, size_mergeInto _ _ _, rfl, hsettings, fun id => ?_⟩
    rw [find?_mergeInto, hfind]
    rfl
  · rw [insert_of_room hnew hroom now] at hsettings ⊢
    exact ⟨_, rfl, size_addEntry _ _ _ _, Rank.mem_insert.2 (.inl rfl),
      Rank.erase_insert (hc.not_mem_order hnew now), hsettings,
      fun id => find?_addEntry hnew id r.metrics now⟩
  · obtain ⟨first, ranks, e, horder, hfirst, heq⟩ := hc.insert_of_full hnew hfull now
    rw [heq] at hsettings ⊢
    have hrest : (c.dropFirst first ranks).find? r.id = none := by
      rw [find?_dropFirst, hnew, ite_self]
    have hleast : c.order.erase (rankOf (first.id, e)) = ranks := by
      rw [hc.rankOf_first horder hfirst, horder]
      exact List.erase_cons_head first ranks
    refine ⟨first.id, e, _, hfirst, fun id e' hfind hne => ?_, rfl, ?_,
      Rank.mem_insert.2 (.inl rfl), ?_, hsettings, fun id => ?_⟩
    · exact hc.precedes_of_first horder hfirst hfind hne
    · rw [size_addEntry, hc.size_dropFirst horder]
    · refine Eq.trans ?_ hleast.symm
      exact Rank.erase_insert ((hc.dropFirst horder).not_mem_order hrest now)
    · rw [find?_addEntry hrest, find?_dropFirst]

/-- Into `threeFlows`, which is full, goes a sample of a flow that it holds, and one of another
flow, for which the flow created at 15 leaves. Drained, it has room. -/
theorem insert_merges_or_adds_threeFlows :
    Reachable 2 (.ofSeconds 5) ⟨0⟩ threeFlows ∧
    (∃ c', threeFlows.insert ⟨.tcpFrom 1 3, .ofPacket 90 8⟩ 12 = (none, c') ∧
      c'.order = threeFlows.order ∧
      c'.find? (.tcpFrom 1 3) = some ⟨⟨2, 150, 5, 8, 0, 0⟩, 20⟩) ∧
    (∃ c', threeFlows.drain.2.insert ⟨.tcpFrom 4 3, .ofPacket 90 8⟩ 12 = (none, c') ∧
      c'.size = 1 ∧ c'.find? (.tcpFrom 4 3) = some ⟨.ofPacket 90 8, 12⟩) ∧
    ∃ least e c', threeFlows.find? least = some e ∧
      threeFlows.insert ⟨.tcpFrom 4 3, .ofPacket 90 8⟩ 12
        = (some (.ofMetrics ⟨0⟩ least e.metrics), c') ∧
      c'.size = 2 ∧ c'.order = [⟨12, .tcpFrom 4 3⟩, ⟨20, .tcpFrom 1 3⟩] := by
  have hreach : Reachable 2 (.ofSeconds 5) ⟨0⟩ threeFlows :=
    .insert _ _ (.insert _ _ (.insert _ _ .empty))
  refine ⟨hreach, ?_, ?_, ?_⟩
  · obtain ⟨c', hinsert, -, horder, -, hfind⟩ :=
      (hreach.insert_merges_or_adds ⟨.tcpFrom 1 3, .ofPacket 90 8⟩ 12).1 _ rfl
    exact ⟨c', hinsert, horder, hfind (.tcpFrom 1 3)⟩
  · obtain ⟨c', hinsert, hsize, -, -, -, hfind⟩ :=
      (hreach.drain.insert_merges_or_adds ⟨.tcpFrom 4 3, .ofPacket 90 8⟩ 12).2.1 rfl (by decide)
    exact ⟨c', hinsert, hsize, hfind (.tcpFrom 4 3)⟩
  · obtain ⟨least, e, c', hleast, -, hinsert, hsize, -⟩ :=
      (hreach.insert_merges_or_adds ⟨.tcpFrom 4 3, .ofPacket 90 8⟩ 12).2.2 rfl (by decide)
    refine ⟨least, e, c', hleast, hinsert, hsize, ?_⟩
    obtain rfl : c' = _ := (congrArg Prod.snd hinsert).symm
    rfl

end Cache

end Flowmeter
