-- SUMMARY: Lists of keys and values in which each key occurs once.

/-!
# Lookup by key

The cache keeps its entries, and the deduper its owners, in lists of pairs with
distinct keys. Looking a key up in such a list is the same as filtering by it.
-/

namespace Flowmeter.Lookup

variable {α β : Type} [DecidableEq α] {l : List (α × β)}

theorem lookup_cons_ite (k k' : α) (v : β) :
    ((k', v) :: l).lookup k = if k = k' then some v else l.lookup k := by
  rw [List.lookup_cons]
  by_cases hk : k = k'
  · simp [hk]
  · simp [hk, beq_eq_false_iff_ne.2 hk]

theorem lookup_eq_some_iff_mem (h : (l.map Prod.fst).Nodup) {k : α} {v : β} :
    l.lookup k = some v ↔ (k, v) ∈ l := by
  induction l with
  | nil => simp
  | cons x l ih =>
    obtain ⟨k', v'⟩ := x
    obtain ⟨hk', hl⟩ := List.nodup_cons.1 h
    by_cases hk : k = k'
    · subst hk
      have hnot : (k, v) ∉ l := fun hmem => hk' (List.mem_map.2 ⟨(k, v), hmem, rfl⟩)
      simp [hnot, eq_comm]
    · simp [lookup_cons_ite, hk, ih hl]

theorem lookup_filter_ne (k k' : α) :
    (l.filter (·.1 ≠ k')).lookup k = if k = k' then none else l.lookup k := by
  induction l with
  | nil => simp
  | cons x l ih =>
    obtain ⟨k₁, v₁⟩ := x
    by_cases h₁ : k₁ = k'
    · have hfilter : ((k₁, v₁) :: l).filter (·.1 ≠ k') = l.filter (·.1 ≠ k') := by simp [h₁]
      rw [hfilter, ih, lookup_cons_ite, h₁]
      split <;> rfl
    · have hfilter : ((k₁, v₁) :: l).filter (·.1 ≠ k') = (k₁, v₁) :: l.filter (·.1 ≠ k') := by
        simp [h₁]
      rw [hfilter, lookup_cons_ite, lookup_cons_ite, ih]
      split
      · next heq => rw [if_neg (heq ▸ h₁)]
      · rfl

/-- Of distinct keys, at most one is `k`. -/
theorem filter_eq_lookup (h : (l.map Prod.fst).Nodup) (k : α) :
    l.filter (·.1 = k) = (l.lookup k).toList.map (Prod.mk k) := by
  induction l with
  | nil => rfl
  | cons x l ih =>
    obtain ⟨k', v'⟩ := x
    obtain ⟨hk', hl⟩ := List.nodup_cons.1 h
    by_cases hk : k = k'
    · subst hk
      have hnone : l.filter (·.1 = k) = [] := by
        refine List.filter_eq_nil_iff.2 fun y hy => ?_
        have hne : y.1 ≠ k := fun heq => hk' (List.mem_map.2 ⟨y, hy, heq⟩)
        simpa using hne
      simp [hnone]
    · have hk₁ : ¬ k' = k := fun heq => hk heq.symm
      simp [lookup_cons_ite, hk, hk₁, ih hl]

theorem lookup_append_singleton {k' : α} (v : β) (h : l.lookup k' = none) (k : α) :
    (l ++ [(k', v)]).lookup k = if k = k' then some v else l.lookup k := by
  rw [List.lookup_append, lookup_cons_ite, List.lookup_nil]
  split
  · next hk => simp [hk, h]
  · simp

theorem keys_nodup_append_singleton (h : (l.map Prod.fst).Nodup) {k : α} (v : β)
    (hk : l.lookup k = none) : ((l ++ [(k, v)]).map Prod.fst).Nodup := by
  rw [List.map_append, List.nodup_append]
  refine ⟨h, by simp, fun x hx y hy => ?_⟩
  rintro rfl
  obtain rfl := List.mem_singleton.1 hy
  obtain ⟨⟨_, v'⟩, hmem, rfl⟩ := List.mem_map.1 hx
  rw [(lookup_eq_some_iff_mem h).2 hmem] at hk
  cases hk

end Flowmeter.Lookup
