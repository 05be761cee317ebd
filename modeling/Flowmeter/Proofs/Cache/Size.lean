-- SUMMARY: How many entries the operations leave in a cache, whatever it holds.
import Flowmeter.Cache
import Flowmeter.Proofs.Time.Overflow

/-!
# Size

Each record that leaves a cache takes an entry with it, and an insertion adds
one entry at most. This holds of any cache, well formed or not.
-/

namespace Flowmeter

namespace Cache

theorem size_pop (c : Cache) : c.pop.2.size + c.pop.1.toList.length ≤ c.size := by
  unfold pop
  split
  · exact Nat.le_refl _
  · next first ranks _ =>
    split
    · exact Nat.le_refl _
    · next entry hfind =>
      -- The entry that is found is filtered out.
      obtain ⟨before, after, hentries, -⟩ := List.lookup_eq_some_iff.1 hfind
      have hmem : (first.id, entry) ∈ c.entries := by
        rw [hentries]
        simp
      exact List.length_filter_lt_length_iff_exists.2 ⟨_, hmem, by simp⟩

theorem size_mergeInto (c : Cache) (id : FlowId) (metrics : Metrics) :
    (c.mergeInto id metrics).size = c.size :=
  List.length_map _

theorem size_addEntry (c : Cache) (id : FlowId) (metrics : Metrics) (now : Instant) :
    (c.addEntry id metrics now).size = c.size + 1 := by
  simp [addEntry, size]

theorem size_insert (c : Cache) (r : RawRecord) (now : Instant) :
    (c.insert r now).2.size + (c.insert r now).1.toList.length ≤ c.size + 1 := by
  unfold insert
  split
  · rw [size_mergeInto]
    simp
  · dsimp only
    split
    · have hpop := c.size_pop
      rw [size_addEntry]
      omega
    · rw [size_addEntry]
      simp

theorem size_expireUpTo {count : Nat} {c c' : Cache} {now : Instant} {batch : Batch}
    (h : expireUpTo count c now = .ok (batch, c')) : c'.size + batch.length ≤ c.size := by
  induction count generalizing c batch with
  | zero =>
    obtain ⟨rfl, rfl⟩ := Prod.mk.inj (Except.ok.inj h)
    exact Nat.le_refl _
  | succ count ih =>
    rw [expireUpTo] at h
    split at h
    · obtain ⟨rfl, rfl⟩ := Prod.mk.inj (Except.ok.inj h)
      exact Nat.le_refl _
    · obtain ⟨due, -, h⟩ := bind_eq_ok.1 h
      split at h
      · obtain ⟨rfl, rfl⟩ := Prod.mk.inj (Except.ok.inj h)
        exact Nat.le_refl _
      · have hsize := c.size_pop
        cases hpop : c.pop with
        | mk evicted c₁ =>
          simp only [hpop] at h hsize
          obtain ⟨⟨later, c''⟩, hlater, h⟩ := bind_eq_ok.1 h
          obtain ⟨rfl, rfl⟩ := Prod.mk.inj (Except.ok.inj h)
          have hrest : c''.size + later.length ≤ c₁.size := ih hlater
          change c''.size + (evicted.toList ++ later).length ≤ c.size
          rw [List.length_append]
          omega

theorem size_expire {c c' : Cache} {now : Instant} {batch : Batch}
    (h : c.expire now = .ok (batch, c')) : c'.size + batch.length ≤ c.size :=
  size_expireUpTo h

theorem size_drain (c : Cache) : c.drain.2.size = 0 := rfl

theorem length_drain (c : Cache) : c.drain.1.length = c.size :=
  List.length_map _

end Cache

end Flowmeter
