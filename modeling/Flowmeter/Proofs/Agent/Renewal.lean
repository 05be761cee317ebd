-- SUMMARY: How long an interface whose samples keep coming keeps the flow that it owns.
import Flowmeter.Proofs.Agent.Settings
import Flowmeter.Proofs.Dedup.Renewal
import Flowmeter.Proofs.Pipeline.Sweeps

/-!
# Keeping a flow

An interface owns a flow, and its samples come in at distances of less than the
active timeout. Of these some are in each interval between two sweeps, and they
leave the cache no later than two timeouts after the first of the two. So the
records of the interface are no more than two timeouts apart.

By default an ownership ends after just this time, and a record that is judged
at that instant takes the flow if it stands ahead of the owner's. There is no
other instant at which the flow is lost, and with a longer expiry it never is.
-/

namespace Flowmeter

open Cache Dedup

/-! ## Samples that keep coming -/

/-- When the samples of a flow come in. -/
def Cache.Arrival.timesOf (id : FlowId) (samples : List Arrival) : List Instant :=
  (samples.filter (·.sample.id = id)).map Arrival.time

/-- From `since` up to `till`, each of the instants is followed by another one in less than `gap`. -/
def KeepsComing (gap : Nat) (since till : Instant) (times : List Instant) : Prop :=
  ∀ t ∈ since :: times, since ≤ t → t + gap ≤ till → ∃ t' ∈ times, t < t' ∧ t' < t + gap

instance (gap : Nat) (since till : Instant) (times : List Instant) :
    Decidable (KeepsComing gap since till times) :=
  inferInstanceAs (Decidable (∀ t ∈ since :: times, since ≤ t → t + gap ≤ till →
    ∃ t' ∈ times, t < t' ∧ t' < t + gap))

/-- So whichever moment one waits from, one of the instants comes in less than `gap`. The
induction is on how far the latest known one lies behind. -/
theorem KeepsComing.exists_between {gap : Nat} {since till s : Instant} {times : List Instant}
    (h : KeepsComing gap since till times) (hsince : since ≤ s) (htill : s + gap ≤ till) :
    ∃ t ∈ times, s < t ∧ t < s + gap := by
  have hfrom : ∀ t ∈ since :: times, since ≤ t → t ≤ s →
      ∃ t' ∈ times, s < t' ∧ t' < s + gap := by
    intro t ht hlow hhigh
    induction hbehind : s - t using Nat.strongRecOn generalizing t with
    | ind n ih =>
      have hgap : t + gap ≤ s + gap := Nat.add_le_add_right hhigh gap
      obtain ⟨t', ht', hlater, hsoon⟩ := h t ht hlow (Nat.le_trans hgap htill)
      rcases Nat.lt_or_ge s t' with hs | hs
      · exact ⟨t', ht', hs, Nat.lt_of_lt_of_le hsoon hgap⟩
      · have hcloser : s - t' < n := by
          rw [← hbehind]
          exact Nat.sub_lt_sub_left (Nat.lt_of_lt_of_le hlater hs) hlater
        exact ih (s - t') hcloser t' (List.mem_cons_of_mem since ht')
          (Nat.le_trans hlow (Nat.le_of_lt hlater)) hs rfl
  exact hfrom since List.mem_cons_self (Nat.le_refl since) hsince

/-! ## Records that keep coming -/

namespace Cache.Sweeps

variable {max : Nat} {timeout : Duration} {clock : Clock} {samples : List Arrival}
  {feeds : List Feed} {id : FlowId} {since till : Instant}

/-- While samples keep coming, no two timeouts pass without a record of theirs. -/
theorem exists_feed_of_keepsComing (h : Sweeps timeout 0 (.empty max timeout clock) samples feeds)
    (hkeeps : KeepsComing timeout.nanos since till (Arrival.timesOf id samples))
    (htill : ∃ f ∈ feeds, f.now = till) {f : Feed} (hf : f ∈ feeds) (hsince : since ≤ f.now)
    (hlate : f.now + 2 * timeout.nanos ≤ till) :
    ∃ g ∈ feeds, f.now < g.now ∧ g.now ≤ f.now + 2 * timeout.nanos ∧ ∃ x ∈ g.batch, x.id = id := by
  obtain ⟨n, -, hn⟩ := h.now_eq f hf
  rw [hn] at hsince hlate ⊢
  rw [← Nat.add_mul] at hlate ⊢
  -- Between sweep `n` and the next one there is a sample.
  have hone : n * timeout.nanos + timeout.nanos ≤ till := by
    rw [← Nat.succ_mul]
    exact Nat.le_trans (Nat.mul_le_mul_right _ (Nat.le_succ _)) hlate
  obtain ⟨t, ht, hafter, hbefore⟩ := hkeeps.exists_between hsince hone
  have hpos : 0 < timeout.nanos := Nat.pos_of_lt_add_right (Nat.lt_trans hafter hbefore)
  rw [← Nat.succ_mul] at hbefore
  obtain ⟨a, ha, rfl⟩ := List.mem_map.1 ht
  obtain ⟨ha, haid⟩ := List.mem_filter.1 ha
  rw [← of_decide_eq_true haid]
  obtain ⟨last, hlast, rfl⟩ := htill
  exact h.exists_leaving_of_arrival (.empty max timeout clock) hpos ha hafter hbefore
    ⟨last, hlast, hlate⟩

theorem returns (h : Sweeps timeout 0 (.empty max timeout clock) samples feeds)
    {d d' : Deduper} {verdicts : List (List Verdict)}
    (hrun : judgeAll Deduper.judgeBatch d feeds = .ok (verdicts, d'))
    (hkeeps : KeepsComing timeout.nanos since till (Arrival.timesOf id samples))
    (htill : ∃ f ∈ feeds, f.now = till) :
    Returns (2 * timeout.nanos) id since till verdicts.flatten := by
  intro o ho hid hsince hlate
  obtain ⟨vs, hvs, ho⟩ := List.mem_flatten.1 ho
  obtain ⟨f, hf, -, hnow⟩ := exists_feed_of_judgeAll hrun hvs
  rw [hnow o ho] at hsince hlate ⊢
  obtain ⟨g, hg, hlater, hsoon, x, hx, hxid⟩ :=
    h.exists_feed_of_keepsComing hkeeps htill hf hsince hlate
  obtain ⟨us, hus, hrecords, hnow'⟩ := exists_verdicts_of_judgeAll hrun hg
  rw [← hrecords] at hx
  obtain ⟨u, hu, rfl⟩ := List.mem_map.1 hx
  rw [← hnow' u hu] at hlater hsoon
  exact ⟨u, List.mem_flatten_of_mem hus hu, hxid, hlater, hsoon⟩

end Cache.Sweeps

/-! ## How long the flow is kept -/

namespace Agent

/-- An interface owns a flow, and from then on its samples come in at distances of
less than the active timeout. With an expiry of more than two timeouts no record
of the flow on another interface is let through. With the default expiry one is,
as long as none was before, just if it is judged two timeouts after the latest
record of the owner; and then the next record of the owner stands behind it in
the same batch. -/
theorem steady_owner_keeps_flow {config : Config} {mode : Mode} {expiry : Duration}
    (hdedup : config.dedup = .ok (.ok (.firstCome, mode, expiry))) {max : Nat} {clock : Clock}
    {samples : List Arrival} {feeds : List Feed}
    (hsweeps : Cache.Sweeps config.cacheActiveTimeout 0
      (.empty max config.cacheActiveTimeout clock) samples feeds)
    {batches : List Batch} {d : Deduper}
    (hrun : dedupAll (.empty .firstCome mode expiry) feeds = .ok (batches, d)) :
    ∃ verdicts,
      judgeAll Deduper.judgeBatch (.empty .firstCome mode expiry) feeds = .ok (verdicts, d) ∧
      batches = verdicts.map (·.flatMap (Verdict.output mode)) ∧
      verdicts.map (·.map fun v => (v.record, v.arrived)) = feeds.map Feed.arrivals ∧
      ∀ before v mid w after, verdicts.flatten = before ++ v :: (mid ++ w :: after) →
        v.isDuplicate = false → w.flow = v.flow → w.ifIndex ≠ v.ifIndex →
        KeepsComing config.cacheActiveTimeout.nanos v.arrived w.arrived
          (Arrival.timesOf v.record.id samples) →
        (2 * config.cacheActiveTimeout.nanos < expiry.nanos → w.isDuplicate = true) ∧
        (config.deduperExpiry = none →
          (∀ u ∈ mid, u.flow = v.flow → u.ifIndex ≠ v.ifIndex → u.isDuplicate = true) →
          ∃ o, IsLatestOwner (before ++ v :: mid) v.flow o ∧ o.record.id = v.record.id ∧
            (w.isDuplicate = false ↔
              w.arrived = o.arrived + 2 * config.cacheActiveTimeout.nanos) ∧
            (w.isDuplicate = false →
              ∃ u ∈ after, u.record.id = v.record.id ∧ u.arrived = w.arrived)) := by
  obtain ⟨verdicts, hverdicts, rfl⟩ := dedupAll_eq_ok.1 hrun
  have hhistory := isHistory_of_judgeAll hsweeps.ordered hverdicts
  refine ⟨verdicts, hverdicts, rfl, map_record_judgeAll hverdicts, ?_⟩
  intro before v mid w after hsplit hv hflow hne hkeeps
  have htill : ∃ f ∈ feeds, f.now = w.arrived := by
    have hw : w ∈ verdicts.flatten := by simp [hsplit]
    obtain ⟨vs, hvs, hw⟩ := List.mem_flatten.1 hw
    obtain ⟨f, hf, -, hnow⟩ := exists_feed_of_judgeAll hverdicts hvs
    exact ⟨f, hf, (hnow w hw).symm⟩
  have hreturns := hsweeps.returns hverdicts hkeeps htill
  constructor
  · intro hlong
    exact hhistory.isDuplicate_of_returns hsplit hv hflow hne hreturns hlong
  · intro hdefault hkept
    obtain ⟨-, -, twice, htwice, hexpiry⟩ := Config.dedup_eq_ok_iff.1 hdedup
    rw [hdefault, Option.getD_none] at hexpiry
    subst hexpiry
    have hsplit' : verdicts.flatten = (before ++ v :: mid) ++ w :: after := by simp [hsplit]
    obtain ⟨o, ho, hid, hsince⟩ := hhistory.exists_latestOwner_of_kept hsplit' hv hkept
    have hone : o.ifIndex ≠ w.ifIndex := by
      rw [Verdict.ifIndex, hid]
      exact hne.symm
    have hlost : w.isDuplicate = false →
        w.arrived = o.arrived + 2 * config.cacheActiveTimeout.nanos ∧
          ∃ u ∈ after, u.record.id = v.record.id ∧ u.arrived = w.arrived := by
      intro hw
      rw [← hid] at hreturns ⊢
      obtain ⟨hwhen, -, hbehind⟩ := hhistory.arrived_eq_of_returns hsplit' hw (hflow ▸ ho) hone
        hsince hreturns (Nat.le_of_eq htwice.symm)
      exact ⟨hwhen, hbehind⟩
    refine ⟨o, ho, hid, ⟨fun hw => (hlost hw).1, fun hwhen => ?_⟩, fun hw => (hlost hw).2⟩
    have hend : o.expiresAt expiry = w.arrived := by rw [Verdict.expiresAt, htwice, hwhen]
    exact hhistory.isDuplicate_of_expired hsplit' (hflow ▸ ho) (Nat.le_of_eq hend)

def tenNanos : Duration := ⟨10, by decide⟩

/-- First come, first served, with an active timeout of ten nanoseconds. -/
def quick (expiry : Option Duration) : Config :=
  { Config.default with
    deduper := "first-come"
    deduperExpiry := expiry
    cacheActiveTimeout := tenNanos }

/-- Interface 3 reports a flow all the time. Interface 4 does so once, after a sweep
and ahead of interface 3. -/
def almostAlone : List Arrival :=
  [(3, 5), (3, 12), (3, 19), (4, 22), (3, 25), (3, 32), (3, 39)].map
    fun (ifIndex, time) => ⟨⟨.tcpFrom 1 ifIndex, .ofPacket 60 5⟩, time⟩

/-- The record of three samples of interface 3. -/
def threeSamples : Record :=
  .ofMetrics ⟨0⟩ (.tcpFrom 1 3) (.mergeAll (.ofPacket 60 5) [.ofPacket 60 5, .ofPacket 60 5])

/-- What leaves the cache at the sweeps at 10, 20, 30 and 40. -/
def almostAloneFeeds : List Feed :=
  swept [] 10 ++ (swept [threeSamples] 20 ++ (swept [] 30 ++
    (swept [recordFrom 1 4, threeSamples] 40 ++ [])))

theorem almostAlone_sweeps :
    Cache.Sweeps tenNanos 0 (.empty 5 tenNanos ⟨0⟩) almostAlone almostAloneFeeds := by
  refine .take (by decide) (by decide) rfl (.sweep rfl ?_)
  refine .take (by decide) (by decide) rfl (.take (by decide) (by decide) rfl (.sweep rfl ?_))
  refine .take (by decide) (by decide) rfl (.take (by decide) (by decide) rfl (.sweep rfl ?_))
  exact .take (by decide) (by decide) rfl (.take (by decide) (by decide) rfl (.sweep rfl .done))

/-- With one nanosecond more than two active timeouts interface 3 keeps the flow. By
default interface 4 is judged just when the time of interface 3 is up. -/
theorem steady_owner_keeps_flow_almostAlone :
    (∃ verdicts d v w u,
      judgeAll Deduper.judgeBatch (.empty .firstCome .drop ⟨21, by decide⟩) almostAloneFeeds
        = .ok (verdicts, d) ∧
      verdicts.flatten = [v, w, u] ∧ v.ifIndex = 3 ∧ w.ifIndex = 4 ∧ w.isDuplicate = true) ∧
    (∃ verdicts d v w u o,
      judgeAll Deduper.judgeBatch (.empty .firstCome .drop ⟨20, by decide⟩) almostAloneFeeds
        = .ok (verdicts, d) ∧
      verdicts.flatten = [v, w, u] ∧ v.ifIndex = 3 ∧ w.ifIndex = 4 ∧
      IsLatestOwner [v] v.flow o ∧ w.arrived = o.arrived + 20 ∧ u.record.id = v.record.id ∧
      u.arrived = w.arrived) := by
  constructor
  · have hdedup : (quick (some ⟨21, by decide⟩)).dedup
        = .ok (.ok (.firstCome, .drop, ⟨21, by decide⟩)) := rfl
    have hrun : dedupAll (.empty .firstCome .drop ⟨21, by decide⟩) almostAloneFeeds
        = .ok ([[threeSamples], [threeSamples]], _) := rfl
    have hverdicts : judgeAll Deduper.judgeBatch (.empty .firstCome .drop ⟨21, by decide⟩)
        almostAloneFeeds = .ok ([[⟨threeSamples, 20, false⟩],
          [⟨recordFrom 1 4, 40, true⟩, ⟨threeSamples, 40, false⟩]], _) := rfl
    obtain ⟨verdicts, hjudged, -, -, hkeeps⟩ :=
      steady_owner_keeps_flow hdedup almostAlone_sweeps hrun
    obtain ⟨rfl, -⟩ := Prod.mk.inj (Except.ok.inj (hverdicts.symm.trans hjudged))
    refine ⟨_, _, _, _, _, hjudged, rfl, rfl, rfl, ?_⟩
    exact (hkeeps [] _ [] _ _ rfl rfl rfl (by decide) (by decide)).1 (by decide)
  · have hdedup : (quick none).dedup = .ok (.ok (.firstCome, .drop, ⟨20, by decide⟩)) := rfl
    have hrun : dedupAll (.empty .firstCome .drop ⟨20, by decide⟩) almostAloneFeeds
        = .ok ([[threeSamples], [recordFrom 1 4]], _) := rfl
    have hverdicts : judgeAll Deduper.judgeBatch (.empty .firstCome .drop ⟨20, by decide⟩)
        almostAloneFeeds = .ok ([[⟨threeSamples, 20, false⟩],
          [⟨recordFrom 1 4, 40, false⟩, ⟨threeSamples, 40, true⟩]], _) := rfl
    obtain ⟨verdicts, hjudged, -, -, hkeeps⟩ :=
      steady_owner_keeps_flow hdedup almostAlone_sweeps hrun
    obtain ⟨rfl, -⟩ := Prod.mk.inj (Except.ok.inj (hverdicts.symm.trans hjudged))
    obtain ⟨o, ho, -, hwhen, hbehind⟩ :=
      (hkeeps [] _ [] _ _ rfl rfl rfl (by decide) (by decide)).2 rfl (by simp)
    obtain ⟨u, hu, hid, hnow⟩ := hbehind rfl
    obtain rfl := List.mem_singleton.1 hu
    exact ⟨_, _, _, _, _, o, hjudged, rfl, rfl, rfl, ho, hwhen.1 rfl, hid, hnow⟩

/-- With the default expiry interface 4 takes the flow, two active timeouts after the
record that made interface 3 its owner. -/
theorem steady_owner_loses_flow :
    (quick none).dedup = .ok (.ok (.firstCome, .drop, ⟨20, by decide⟩)) ∧
    Cache.Sweeps tenNanos 0 (.empty 5 tenNanos ⟨0⟩) almostAlone almostAloneFeeds ∧
    ∃ verdicts d v w u,
      judgeAll Deduper.judgeBatch (.empty .firstCome .drop ⟨20, by decide⟩) almostAloneFeeds
        = .ok (verdicts, d) ∧
      verdicts.flatten = [v, w, u] ∧ v.isDuplicate = false ∧ w.flow = v.flow ∧
      w.ifIndex ≠ v.ifIndex ∧
      KeepsComing 10 v.arrived w.arrived (Arrival.timesOf v.record.id almostAlone) ∧
      w.isDuplicate = false := by
  refine ⟨rfl, almostAlone_sweeps, [[⟨threeSamples, 20, false⟩],
    [⟨recordFrom 1 4, 40, false⟩, ⟨threeSamples, 40, true⟩]], _, _, _, _, rfl, rfl, rfl, rfl, ?_⟩
  exact ⟨by decide, by decide, rfl⟩

end Agent

end Flowmeter
