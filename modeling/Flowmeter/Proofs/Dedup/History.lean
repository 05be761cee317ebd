-- SUMMARY: Runs of the deduper as histories of verdicts, and the verdicts that a whole history gives.
import Flowmeter.Dedup
import Flowmeter.Proofs.Lookup
import Flowmeter.Proofs.Time.Overflow

/-!
# Histories

A run of the deduper judges batches one after the other, and leaves a history
of verdicts. A judge that never forgets would need no memory but the history:
the latest record of a flow that was no duplicate tells who owns the flow, and
until when.

The memory of the deduper stands for the history as follows. Each owner in it
is the latest one of its flow, and each latest owner whose time is not up is in
it. Forgetting expired owners keeps this as long as time does not go back, so
both judges agree on every record.
-/

namespace Flowmeter

namespace Dedup

open Lookup

/-! ## Verdicts -/

/-- What was made of a record, and when. -/
structure Verdict where
  record : Record
  arrived : Instant
  isDuplicate : Bool

namespace Verdict

/-- The logical flow that the record belongs to. -/
def flow (v : Verdict) : FlowId := v.record.id.logical

def ifIndex (v : Verdict) : UInt32 := v.record.id.ifIndex

/-- Whether the record made, or left, its interface the owner of `flow`. -/
def owns (v : Verdict) (flow : FlowId) : Bool := v.flow = flow && !v.isDuplicate

/-- When the ownership that comes of the record is over. -/
def expiresAt (v : Verdict) (expiry : Duration) : Instant := v.arrived + expiry.nanos

/-- What is passed on of the record. -/
def output (mode : Mode) (v : Verdict) : Batch := Judgement.output mode ⟨v.record, v.isDuplicate⟩

end Verdict

def Judgement.at (j : Judgement) (now : Instant) : Verdict := ⟨j.record, now, j.isDuplicate⟩

/-! ## The latest owner -/

/-- The latest record that made or left its interface the owner of `flow`. -/
def latestOwner (history : List Verdict) (flow : FlowId) : Option Verdict :=
  history.reverse.find? (·.owns flow)

theorem latestOwner_nil (flow : FlowId) : latestOwner [] flow = none := rfl

theorem latestOwner_snoc (history : List Verdict) (v : Verdict) (flow : FlowId) :
    latestOwner (history ++ [v]) flow = if v.owns flow then some v else latestOwner history flow := by
  simp only [latestOwner, List.reverse_append, List.reverse_cons, List.reverse_nil, List.nil_append,
    List.cons_append, List.find?_cons]
  cases v.owns flow <;> rfl

theorem latestOwner_append (history later : List Verdict) (flow : FlowId) :
    latestOwner (history ++ later) flow
      = (latestOwner later flow).or (latestOwner history flow) := by
  simp only [latestOwner, List.reverse_append, List.find?_append]

theorem latestOwner_eq_none_iff {history : List Verdict} {flow : FlowId} :
    latestOwner history flow = none ↔ ∀ v ∈ history, ¬ v.owns flow = true := by
  simp [latestOwner]

theorem mem_of_latestOwner {history : List Verdict} {flow : FlowId} {o : Verdict}
    (h : latestOwner history flow = some o) : o ∈ history ∧ o.owns flow = true := by
  rw [latestOwner] at h
  have howns := List.find?_some h
  exact ⟨List.mem_reverse.1 (List.mem_of_find?_eq_some h), howns⟩

/-- Records of other flows have no say. -/
theorem latestOwner_filter (history : List Verdict) (flow : FlowId) :
    latestOwner (history.filter (·.flow = flow)) flow = latestOwner history flow := by
  have howns : ∀ v : Verdict,
      decide (decide (v.flow = flow) = true ∧ v.owns flow = true) = v.owns flow := by
    intro v
    by_cases h : v.flow = flow <;> simp [Verdict.owns, h]
  simp only [latestOwner, ← List.filter_reverse, List.find?_filter, howns]

/-- `o` is of `flow` and no duplicate, and all of `flow` that came after it are duplicates. -/
def IsLatestOwner (history : List Verdict) (flow : FlowId) (o : Verdict) : Prop :=
  ∃ older newer, history = older ++ o :: newer ∧ o.flow = flow ∧ o.isDuplicate = false ∧
    ∀ n ∈ newer, n.flow = flow → n.isDuplicate = true

theorem latestOwner_eq_some_iff {history : List Verdict} {flow : FlowId} {o : Verdict} :
    latestOwner history flow = some o ↔ IsLatestOwner history flow o := by
  rw [latestOwner, List.find?_eq_some_iff_append]
  constructor
  · rintro ⟨howns, newer, older, hreverse, hnewer⟩
    refine ⟨older.reverse, newer.reverse, ?_, ?_, ?_, ?_⟩
    · simpa using congrArg List.reverse hreverse
    · simp_all [Verdict.owns]
    · simp_all [Verdict.owns]
    · intro n hn hflow
      have := hnewer n (List.mem_reverse.1 hn)
      simpa [Verdict.owns, hflow] using this
  · rintro ⟨older, newer, rfl, hflow, hdup, hnewer⟩
    refine ⟨by simp [Verdict.owns, hflow, hdup], newer.reverse, older.reverse, by simp, ?_⟩
    intro n hn
    have := hnewer n (List.mem_reverse.1 hn)
    by_cases h : n.flow = flow <;> simp_all [Verdict.owns]

/-! ## Judging by the history -/

/-- Whether by the history another interface than that of `id` owns the flow at `now`. -/
def ownedElsewhere (expiry : Duration) (history : List Verdict) (id : FlowId) (now : Instant) :
    Bool :=
  match latestOwner history id.logical with
  | some o => now < o.expiresAt expiry && o.ifIndex ≠ id.ifIndex
  | none => false

theorem ownedElsewhere_eq_true_iff {expiry : Duration} {history : List Verdict} {id : FlowId}
    {now : Instant} :
    ownedElsewhere expiry history id now = true ↔
      ∃ o, IsLatestOwner history id.logical o ∧ o.ifIndex ≠ id.ifIndex ∧
        now < o.expiresAt expiry := by
  simp only [← latestOwner_eq_some_iff, ownedElsewhere]
  cases latestOwner history id.logical with
  | none => simp
  | some o => simp [and_comm]

/-- Judges records in turn by all that was judged before. -/
def judgeByHistory (expiry : Duration) : List Verdict → List (Record × Instant) → List Verdict
  | _, [] => []
  | history, (r, now) :: later =>
    let v : Verdict := ⟨r, now, ownedElsewhere expiry history r.id now⟩
    v :: judgeByHistory expiry (history ++ [v]) later

theorem judgeByHistory_append (expiry : Duration) (history : List Verdict)
    (xs ys : List (Record × Instant)) :
    judgeByHistory expiry history (xs ++ ys)
      = judgeByHistory expiry history xs
        ++ judgeByHistory expiry (history ++ judgeByHistory expiry history xs) ys := by
  induction xs generalizing history with
  | nil => simp [judgeByHistory]
  | cons x xs ih =>
    obtain ⟨r, now⟩ := x
    simp [judgeByHistory, ih]

theorem map_record_judgeByHistory (expiry : Duration) (history : List Verdict)
    (xs : List (Record × Instant)) :
    (judgeByHistory expiry history xs).map (fun v => (v.record, v.arrived)) = xs := by
  induction xs generalizing history with
  | nil => rfl
  | cons x xs ih =>
    obtain ⟨r, now⟩ := x
    simp [judgeByHistory, ih]

/-- Each verdict is given by the verdicts before it. -/
theorem isDuplicate_of_judgeByHistory {expiry : Duration} {history before after : List Verdict}
    {xs : List (Record × Instant)} {v : Verdict}
    (h : judgeByHistory expiry history xs = before ++ v :: after) :
    v.isDuplicate = ownedElsewhere expiry (history ++ before) v.record.id v.arrived := by
  induction xs generalizing history before with
  | nil => simp [judgeByHistory] at h
  | cons x xs ih =>
    obtain ⟨r, now⟩ := x
    cases before with
    | nil =>
      obtain ⟨rfl, -⟩ := List.cons.inj h
      simp
    | cons w before =>
      obtain ⟨rfl, hlater⟩ := List.cons.inj h
      simpa using ih hlater

theorem ownedElsewhere_filter (expiry : Duration) (history : List Verdict) (id : FlowId)
    (now : Instant) :
    ownedElsewhere expiry (history.filter (·.flow = id.logical)) id now
      = ownedElsewhere expiry history id now := by
  simp only [ownedElsewhere, latestOwner_filter]

/-- The verdicts on a flow stay the same if the records of all others are taken away. -/
theorem filter_judgeByHistory (expiry : Duration) (flow : FlowId) (history : List Verdict)
    (xs : List (Record × Instant)) :
    (judgeByHistory expiry history xs).filter (·.flow = flow)
      = judgeByHistory expiry (history.filter (·.flow = flow))
          (xs.filter (·.1.id.logical = flow)) := by
  induction xs generalizing history with
  | nil => rfl
  | cons x xs ih =>
    obtain ⟨r, now⟩ := x
    have hv : ∀ d, (⟨r, now, d⟩ : Verdict).flow = r.id.logical := fun _ => rfl
    by_cases hflow : r.id.logical = flow
    · subst hflow
      simp [judgeByHistory, ih, hv, ownedElsewhere_filter]
    · simp [judgeByHistory, ih, hv, hflow]

end Dedup

end Flowmeter
