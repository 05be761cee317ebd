-- SUMMARY: A flow has one owner at a time, and no flow is duplicated without an owner.
import Flowmeter.Proofs.Dedup.Run

/-!
# Ownership

Between two records of a flow that are no duplicates, the flow may change hands
any number of times. Each change waits until the time of the latest owner is
up, so if the two came in over different interfaces they are at least one
expiry apart.
-/

namespace Flowmeter

namespace Dedup

/-- Verdicts that each follow from the ones before, in the order of time. -/
structure IsHistory (expiry : Duration) (history : List Verdict) : Prop where
  told : ∀ before v after, history = before ++ v :: after →
    (v.isDuplicate = true ↔
      ∃ o, IsLatestOwner before v.flow o ∧ o.ifIndex ≠ v.ifIndex ∧
        v.arrived < o.expiresAt expiry)
  ordered : history.Pairwise (·.arrived ≤ ·.arrived)

theorem isHistory_of_judgeAll {mode : Mode} {expiry : Duration} {feeds : List Feed}
    {verdicts : List (List Verdict)} {d : Deduper} (hordered : Ordered feeds)
    (h : judgeAll Deduper.judgeBatch (.empty .firstCome mode expiry) feeds = .ok (verdicts, d)) :
    IsHistory expiry verdicts.flatten := by
  have hverdicts : verdicts = judgeAllByHistory expiry [] feeds :=
    judgeBatch_followsHistory.judgeAll_eq rfl (.nil expiry 0) (fun _ _ => Nat.zero_le _) hordered h
  rw [hverdicts, flatten_judgeAllByHistory]
  refine ⟨fun before v after hsplit => isDuplicate_iff hsplit, ?_⟩
  have harrivals := hordered.arrivals
  rw [← map_record_judgeByHistory expiry [] (arrivals feeds)] at harrivals
  have hverdicts := List.pairwise_map.1 harrivals
  exact hverdicts

namespace IsHistory

variable {expiry : Duration} {history before after : List Verdict} {v w : Verdict}

theorem arrived_le (h : IsHistory expiry history) {mid : List Verdict}
    (hsplit : history = before ++ v :: (mid ++ w :: after)) : v.arrived ≤ w.arrived := by
  have hordered := h.ordered
  rw [hsplit] at hordered
  exact (List.pairwise_cons.1 (List.pairwise_append.1 hordered).2.1).1 w (by simp)

/-- No record is let through while another interface owns its flow. -/
theorem expiresAt_le (h : IsHistory expiry history) {o : Verdict}
    (hsplit : history = before ++ w :: after) (hw : w.isDuplicate = false)
    (ho : IsLatestOwner before w.flow o) (hne : o.ifIndex ≠ w.ifIndex) :
    o.expiresAt expiry ≤ w.arrived := by
  refine Nat.not_lt.1 fun hvalid => ?_
  have hdup := (h.told before w after hsplit).2 ⟨o, ho, hne, hvalid⟩
  rw [hw] at hdup
  cases hdup

/-- The induction is on how many records lie between. If the latest owner among
them has the interface of `w` already, the flow changed hands before it. -/
theorem expiresAt_le_of_ne (h : IsHistory expiry history) {mid : List Verdict}
    (hsplit : history = before ++ v :: (mid ++ w :: after)) (hflow : v.flow = w.flow)
    (hv : v.isDuplicate = false) (hw : w.isDuplicate = false) (hne : v.ifIndex ≠ w.ifIndex) :
    v.expiresAt expiry ≤ w.arrived := by
  induction hlength : mid.length using Nat.strongRecOn generalizing mid w after with
  | ind n ih =>
    have hsplit' : history = (before ++ [v] ++ mid) ++ w :: after := by simp [hsplit]
    have hlatest : latestOwner (before ++ [v] ++ mid) w.flow
        = (latestOwner mid w.flow).or (some v) := by
      have howns : v.owns w.flow = true := by simp [Verdict.owns, hflow, hv]
      rw [latestOwner_append, latestOwner_snoc, if_pos howns]
    cases hmid : latestOwner mid w.flow with
    | none =>
      rw [hmid, Option.none_or] at hlatest
      exact h.expiresAt_le hsplit' hw (latestOwner_eq_some_iff.1 hlatest) hne
    | some o =>
      rw [hmid, Option.some_or] at hlatest
      obtain ⟨older, newer, rfl, hoflow, ho, -⟩ := latestOwner_eq_some_iff.1 hmid
      have how : history = before ++ v :: older ++ o :: (newer ++ w :: after) := by simp [hsplit]
      have hvo : history = before ++ v :: (older ++ o :: (newer ++ w :: after)) := by simp [hsplit]
      -- Either the flow changed hands before `o`, or it does so at `w`.
      by_cases hsame : o.ifIndex = w.ifIndex
      · have hshorter : older.length < n := by
          simp only [List.length_append, List.length_cons] at hlength
          omega
        have hearlier := ih older.length hshorter hvo (hflow.trans hoflow.symm) ho
          (hsame ▸ hne) rfl
        exact Nat.le_trans hearlier (h.arrived_le how)
      · have hlater := h.expiresAt_le hsplit' hw (latestOwner_eq_some_iff.1 hlatest) hsame
        exact Nat.le_trans (Nat.add_le_add_right (h.arrived_le hvo) _) hlater

/-- A duplicate has an owner, whose time is not up. -/
theorem exists_owner (h : IsHistory expiry history) (hsplit : history = before ++ v :: after)
    (hv : v.isDuplicate = true) :
    ∃ o ∈ before, o.flow = v.flow ∧ o.isDuplicate = false ∧ o.ifIndex ≠ v.ifIndex ∧
      v.arrived < o.expiresAt expiry := by
  obtain ⟨o, ⟨older, newer, rfl, hflow, ho, -⟩, hne, hvalid⟩ := (h.told before v after hsplit).1 hv
  exact ⟨o, by simp, hflow, ho, hne, hvalid⟩

/-- A flow that all its records report of one interface has no duplicates. -/
theorem isDuplicate_of_one_interface (h : IsHistory expiry history) {ifIndex : UInt32}
    (hone : ∀ o ∈ history, o.flow = v.flow → o.ifIndex = ifIndex) (hv : v ∈ history) :
    v.isDuplicate = false := by
  obtain ⟨before, after, hsplit⟩ := List.append_of_mem hv
  refine Bool.eq_false_iff.2 fun hdup => ?_
  obtain ⟨o, ho, hflow, -, hne, -⟩ := h.exists_owner hsplit hdup
  have hmem : o ∈ history := by simp [hsplit, ho]
  exact hne ((hone o hmem hflow).trans (hone v hv rfl).symm)

end IsHistory

/-! ## Whole runs -/

/-- Taken together, the verdicts are on the records of all batches. -/
theorem map_record_flatten {feeds : List Feed} {verdicts : List (List Verdict)}
    (h : verdicts.map (·.map fun v => (v.record, v.arrived)) = feeds.map Feed.arrivals) :
    verdicts.flatten.map Verdict.record = feeds.flatMap Feed.batch := by
  have hbatches := congrArg (fun xs => (xs.map (·.map Prod.fst)).flatten) h
  simpa [List.map_flatten, List.flatMap_def, Feed.arrivals, Function.comp_def] using hbatches

/-- What is passed on of a flow without duplicates is all of it. -/
theorem filter_flatMap_output (mode : Mode) (flow : FlowId) {verdicts : List Verdict}
    (h : ∀ v ∈ verdicts, v.flow = flow → v.isDuplicate = false) :
    (verdicts.flatMap (Verdict.output mode)).filter (·.id.logical = flow)
      = (verdicts.map Verdict.record).filter (·.id.logical = flow) := by
  induction verdicts with
  | nil => rfl
  | cons v verdicts ih =>
    have hrest := ih fun w hw => h w (List.mem_cons_of_mem v hw)
    rw [List.flatMap_cons, List.filter_append, hrest, List.map_cons, ← List.singleton_append,
      List.filter_append]
    congr 1
    by_cases hflow : v.flow = flow
    · have hdup : v.isDuplicate = false := h v List.mem_cons_self hflow
      simp [Verdict.output, Judgement.output, hdup]
    · have hgone : (Verdict.output mode v).filter (·.id.logical = flow) = [] := by
        refine List.filter_eq_nil_iff.2 fun r hr => ?_
        have hid : r.id = v.record.id := by
          simp only [Verdict.output, Judgement.output] at hr
          cases mode <;> cases hdup : v.isDuplicate <;> simp_all
        simpa [hid, Verdict.flow] using hflow
      have hother : [v.record].filter (·.id.logical = flow) = [] := by
        simpa [Verdict.flow] using hflow
      rw [hgone, hother]

/-- Two records of a flow that came in over different interfaces and are both let
through are an expiry apart, whatever came between them; every duplicate comes
less than an expiry after one of its flow that was let through on another
interface; and a flow that only one interface reports is passed on as it came. -/
theorem dedupAll_one_owner (mode : Mode) (expiry : Duration) {feeds : List Feed}
    {batches : List Batch} {d : Deduper} (hordered : Ordered feeds)
    (h : dedupAll (.empty .firstCome mode expiry) feeds = .ok (batches, d)) :
    ∃ verdicts,
      judgeAll Deduper.judgeBatch (.empty .firstCome mode expiry) feeds = .ok (verdicts, d) ∧
      batches = verdicts.map (·.flatMap (Verdict.output mode)) ∧
      verdicts.map (·.map fun v => (v.record, v.arrived)) = feeds.map Feed.arrivals ∧
      (∀ before v mid w after, verdicts.flatten = before ++ v :: (mid ++ w :: after) →
        v.flow = w.flow → v.isDuplicate = false → w.isDuplicate = false →
        v.ifIndex ≠ w.ifIndex → v.arrived + expiry.nanos ≤ w.arrived) ∧
      (∀ before v after, verdicts.flatten = before ++ v :: after → v.isDuplicate = true →
        ∃ o ∈ before, o.flow = v.flow ∧ o.isDuplicate = false ∧ o.ifIndex ≠ v.ifIndex ∧
          v.arrived < o.arrived + expiry.nanos) ∧
      (∀ flow ifIndex,
        (∀ r ∈ feeds.flatMap Feed.batch, r.id.logical = flow → r.id.ifIndex = ifIndex) →
        batches.flatten.filter (·.id.logical = flow)
          = (feeds.flatMap Feed.batch).filter (·.id.logical = flow)) := by
  obtain ⟨verdicts, hrun, rfl⟩ := dedupAll_eq_ok.1 h
  have hhistory := isHistory_of_judgeAll hordered hrun
  have hrecords := map_record_judgeAll hrun
  refine ⟨verdicts, hrun, rfl, hrecords, ?_, ?_, ?_⟩
  · intro before v mid w after hsplit hflow hv hw hne
    exact hhistory.expiresAt_le_of_ne hsplit hflow hv hw hne
  · intro before v after hsplit hv
    exact hhistory.exists_owner hsplit hv
  · intro flow ifIndex hone
    have hone' : ∀ v ∈ verdicts.flatten, v.flow = flow → v.ifIndex = ifIndex := by
      intro v hv hflow
      refine hone v.record ?_ hflow
      rw [← map_record_flatten hrecords]
      exact List.mem_map_of_mem hv
    have hclean : ∀ v ∈ verdicts.flatten, v.flow = flow → v.isDuplicate = false := by
      rintro v hv rfl
      exact hhistory.isDuplicate_of_one_interface hone' hv
    have houtputs : (verdicts.map (·.flatMap (Verdict.output mode))).flatten
        = verdicts.flatten.flatMap (Verdict.output mode) := by
      simp [List.flatMap_def, List.flatten_flatten, Function.comp_def]
    rw [← map_record_flatten hrecords, ← filter_flatMap_output mode flow hclean]
    exact congrArg _ houtputs

/-- The takeover happens an expiry after the ownership was extended. -/
theorem dedupAll_one_owner_takeover :
    ∃ (batches : List Batch) (d : Deduper) (verdicts : List (List Verdict)),
      dedupAll (.empty .firstCome .mark ⟨10, by decide⟩) takeover = .ok (batches, d) ∧
      batches = verdicts.map (·.flatMap (Verdict.output .mark)) ∧
      (∀ before v mid w after, verdicts.flatten = before ++ v :: (mid ++ w :: after) →
        v.flow = w.flow → v.isDuplicate = false → w.isDuplicate = false →
        v.ifIndex ≠ w.ifIndex → v.arrived + 10 ≤ w.arrived) := by
  have hordered : Ordered takeover := by simp [Ordered, takeover]
  obtain ⟨verdicts, hrun, hbatches, -, hapart, -⟩ :=
    dedupAll_one_owner .mark ⟨10, by decide⟩ hordered rfl
  exact ⟨_, _, verdicts, rfl, hbatches, hapart⟩

end Dedup

end Flowmeter
