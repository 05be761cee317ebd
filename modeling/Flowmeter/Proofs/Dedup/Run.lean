-- SUMMARY: Runs of the deduper over batches, and the rule that all their verdicts follow.
import Flowmeter.Proofs.Dedup.Memory
import Flowmeter.Proofs.Flow.Samples

/-!
# Runs of the deduper

A run judges batches at instants that do not go back. From what holds of one
batch it follows that all verdicts of a run are given by its history, which
knows nothing of batches or of forgetting, and nothing of one flow that matters
to another.
-/

namespace Flowmeter

namespace Dedup

/-! ## Feeds -/

/-- A batch, and the instant at which it is judged. -/
structure Feed where
  batch : Batch
  now : Instant

namespace Feed

def arrivals (f : Feed) : List (Record × Instant) := f.batch.map (·, f.now)

/-- What is left of a feed without the records of other flows. -/
def only (flow : FlowId) (f : Feed) : Feed := { f with batch := f.batch.filter (·.id.logical = flow) }

end Feed

/-- The records of all batches in turn, and when they arrive. -/
def arrivals (feeds : List Feed) : List (Record × Instant) := feeds.flatMap Feed.arrivals

/-- Time does not go back. -/
def Ordered (feeds : List Feed) : Prop := feeds.Pairwise (·.now ≤ ·.now)

/-- No ownership outlasts time. -/
def Fits (expiry : Duration) (feeds : List Feed) : Prop :=
  ∀ x ∈ arrivals feeds, x.2 + expiry.nanos < Instant.limit

theorem Ordered.arrivals {feeds : List Feed} (h : Ordered feeds) :
    (arrivals feeds).Pairwise (·.2 ≤ ·.2) := by
  induction feeds with
  | nil => exact .nil
  | cons f feeds ih =>
    obtain ⟨hf, hfeeds⟩ := List.pairwise_cons.1 h
    refine List.pairwise_append.2 ⟨?_, ih hfeeds, ?_⟩
    · exact List.pairwise_map.2 (List.pairwise_of_forall fun _ _ => Nat.le_refl f.now)
    · intro x hx y hy
      obtain ⟨r, -, rfl⟩ := List.mem_map.1 hx
      obtain ⟨g, hg, hy⟩ := List.mem_flatMap.1 hy
      obtain ⟨s, -, rfl⟩ := List.mem_map.1 hy
      exact hf g hg

theorem Ordered.only {feeds : List Feed} (h : Ordered feeds) (flow : FlowId) :
    Ordered (feeds.map (Feed.only flow)) :=
  List.pairwise_map.2 h

theorem arrivals_only (feeds : List Feed) (flow : FlowId) :
    arrivals (feeds.map (Feed.only flow)) = (arrivals feeds).filter (·.1.id.logical = flow) := by
  simp only [arrivals, List.flatMap_map, List.filter_flatMap, Feed.arrivals, Feed.only,
    List.filter_map, Function.comp_def]

/-! ## Runs -/

/-- Judges batches in turn; the verdicts on each stand together. -/
def judgeAll (judge : Judge) :
    Deduper → List Feed → Except TimeOverflow (List (List Verdict) × Deduper)
  | d, [] => .ok ([], d)
  | d, f :: feeds => do
    let (judged, d) ← judge d f.batch f.now
    let (later, d) ← judgeAll judge d feeds
    return (judged.map (·.at f.now) :: later, d)

/-- Dedups batches in turn. -/
def dedupAll : Deduper → List Feed → Except TimeOverflow (List Batch × Deduper)
  | d, [] => .ok ([], d)
  | d, f :: feeds => do
    let (batch, d) ← d.dedup f.batch f.now
    let (later, d) ← dedupAll d feeds
    return (batch :: later, d)

theorem judgeAll_cons_eq_ok {judge : Judge} {d d' : Deduper} {f : Feed} {feeds : List Feed}
    {verdicts : List (List Verdict)} :
    judgeAll judge d (f :: feeds) = .ok (verdicts, d') ↔
      ∃ judged d₁ later, judge d f.batch f.now = .ok (judged, d₁) ∧
        judgeAll judge d₁ feeds = .ok (later, d') ∧
        verdicts = judged.map (·.at f.now) :: later := by
  rw [judgeAll]
  constructor
  · intro h
    obtain ⟨⟨judged, d₁⟩, hf, h⟩ := bind_eq_ok.1 h
    obtain ⟨⟨later, d₂⟩, hfeeds, h⟩ := bind_eq_ok.1 h
    obtain ⟨rfl, rfl⟩ := Prod.mk.inj (Except.ok.inj h)
    exact ⟨judged, d₁, later, hf, hfeeds, rfl⟩
  · rintro ⟨judged, d₁, later, hf, hfeeds, rfl⟩
    exact bind_eq_ok.2 ⟨_, hf, bind_eq_ok.2 ⟨_, hfeeds, rfl⟩⟩

/-- A run up to its last batch, and the last batch. -/
theorem judgeAll_snoc_eq_ok {judge : Judge} {d d' : Deduper} {feeds : List Feed} {f : Feed}
    {verdicts : List (List Verdict)} (h : judgeAll judge d (feeds ++ [f]) = .ok (verdicts, d')) :
    ∃ earlier d₁ judged, judgeAll judge d feeds = .ok (earlier, d₁) ∧
      judge d₁ f.batch f.now = .ok (judged, d') ∧ verdicts = earlier ++ [judged.map (·.at f.now)] := by
  induction feeds generalizing d verdicts with
  | nil =>
    obtain ⟨judged, d₁, later, hf, hlater, rfl⟩ := judgeAll_cons_eq_ok.1 h
    obtain ⟨rfl, rfl⟩ := Prod.mk.inj (Except.ok.inj hlater)
    exact ⟨[], d, judged, rfl, hf, rfl⟩
  | cons g feeds ih =>
    obtain ⟨judged, d₁, later, hg, hlater, rfl⟩ := judgeAll_cons_eq_ok.1 h
    obtain ⟨earlier, d₂, last, hearlier, hf, rfl⟩ := ih hlater
    exact ⟨_, d₂, last, judgeAll_cons_eq_ok.2 ⟨_, _, _, hg, hearlier, rfl⟩, hf, rfl⟩

/-- There is a verdict on each record of each batch. -/
theorem map_record_judgeAll {d d' : Deduper} {feeds : List Feed} {verdicts : List (List Verdict)}
    (h : judgeAll Deduper.judgeBatch d feeds = .ok (verdicts, d')) :
    verdicts.map (·.map fun v => (v.record, v.arrived)) = feeds.map Feed.arrivals := by
  induction feeds generalizing d verdicts with
  | nil =>
    obtain ⟨rfl, -⟩ := Prod.mk.inj (Except.ok.inj h)
    rfl
  | cons f feeds ih =>
    obtain ⟨judged, d₁, later, hf, hfeeds, rfl⟩ := judgeAll_cons_eq_ok.1 h
    have hbatch : f.batch = judged.map Judgement.record := (Deduper.judgeBatch_frame hf).1.symm
    rw [List.map_cons, List.map_cons, ih hfeeds, Feed.arrivals, hbatch]
    simp only [List.map_map, Function.comp_def, Judgement.at]

/-- Verdicts on a feed are on its records, at its instant. -/
theorem map_record_eq_batch {vs : List Verdict} {f : Feed}
    (h : vs.map (fun v => (v.record, v.arrived)) = f.arrivals) :
    vs.map Verdict.record = f.batch ∧ ∀ v ∈ vs, v.arrived = f.now := by
  constructor
  · have hrecords := congrArg (List.map Prod.fst) h
    simpa [Feed.arrivals, Function.comp_def] using hrecords
  · intro v hv
    have harrival : (v.record, v.arrived) ∈ f.arrivals := h ▸ List.mem_map_of_mem hv
    obtain ⟨r, -, heq⟩ := List.mem_map.1 harrival
    exact (Prod.mk.inj heq).2.symm

section

variable {d d' : Deduper} {feeds : List Feed} {verdicts : List (List Verdict)}

theorem exists_feed_of_judgeAll (h : judgeAll Deduper.judgeBatch d feeds = .ok (verdicts, d'))
    {vs : List Verdict} (hvs : vs ∈ verdicts) :
    ∃ f ∈ feeds, vs.map Verdict.record = f.batch ∧ ∀ v ∈ vs, v.arrived = f.now := by
  have hmem : vs.map (fun v => (v.record, v.arrived)) ∈ feeds.map Feed.arrivals :=
    map_record_judgeAll h ▸ List.mem_map_of_mem hvs
  obtain ⟨f, hf, harrivals⟩ := List.mem_map.1 hmem
  exact ⟨f, hf, map_record_eq_batch harrivals.symm⟩

theorem exists_verdicts_of_judgeAll (h : judgeAll Deduper.judgeBatch d feeds = .ok (verdicts, d'))
    {f : Feed} (hf : f ∈ feeds) :
    ∃ vs ∈ verdicts, vs.map Verdict.record = f.batch ∧ ∀ v ∈ vs, v.arrived = f.now := by
  have hmem : f.arrivals ∈ verdicts.map (·.map fun v => (v.record, v.arrived)) :=
    map_record_judgeAll h ▸ List.mem_map_of_mem hf
  obtain ⟨vs, hvs, harrivals⟩ := List.mem_map.1 hmem
  exact ⟨vs, hvs, map_record_eq_batch harrivals⟩

end

/-- Dedups are the outputs of verdicts. -/
theorem dedupAll_eq_ok {d d' : Deduper} {feeds : List Feed} {batches : List Batch} :
    dedupAll d feeds = .ok (batches, d') ↔
      ∃ verdicts, judgeAll Deduper.judgeBatch d feeds = .ok (verdicts, d') ∧
        batches = verdicts.map (·.flatMap (Verdict.output d.mode)) := by
  induction feeds generalizing d batches with
  | nil =>
    constructor
    · intro h
      obtain ⟨rfl, rfl⟩ := Prod.mk.inj (Except.ok.inj h)
      exact ⟨[], rfl, rfl⟩
    · rintro ⟨verdicts, h, rfl⟩
      obtain ⟨rfl, rfl⟩ := Prod.mk.inj (Except.ok.inj h)
      rfl
  | cons f feeds ih =>
    have houtput : ∀ judged : List Judgement,
        (judged.map (·.at f.now)).flatMap (Verdict.output d.mode)
          = judged.flatMap (Judgement.output d.mode) := by
      intro judged
      rw [List.flatMap_map]
      rfl
    rw [dedupAll]
    constructor
    · intro h
      obtain ⟨⟨batch, d₁⟩, hf, h⟩ := bind_eq_ok.1 h
      obtain ⟨⟨later, d₂⟩, hfeeds, h⟩ := bind_eq_ok.1 h
      obtain ⟨rfl, rfl⟩ := Prod.mk.inj (Except.ok.inj h)
      obtain ⟨judged, hjudge, rfl⟩ := Deduper.dedup_eq_ok.1 hf
      obtain ⟨-, m, rfl⟩ := Deduper.judgeBatch_frame hjudge
      obtain ⟨verdicts, hverdicts, rfl⟩ := ih.1 hfeeds
      refine ⟨_, judgeAll_cons_eq_ok.2 ⟨judged, _, verdicts, hjudge, hverdicts, rfl⟩, ?_⟩
      rw [List.map_cons, houtput]
    · rintro ⟨verdicts, h, rfl⟩
      obtain ⟨judged, d₁, later, hjudge, hlater, rfl⟩ := judgeAll_cons_eq_ok.1 h
      have hf := Deduper.dedup_eq_ok.2 ⟨judged, hjudge, rfl⟩
      obtain ⟨-, m, rfl⟩ := Deduper.judgeBatch_frame hjudge
      have hfeeds := ih.2 ⟨later, hlater, rfl⟩
      rw [List.map_cons, houtput]
      exact bind_eq_ok.2 ⟨_, hf, bind_eq_ok.2 ⟨_, hfeeds, rfl⟩⟩

/-! ## Runs follow the history -/

/-- Judges batches by the history. -/
def judgeAllByHistory (expiry : Duration) : List Verdict → List Feed → List (List Verdict)
  | _, [] => []
  | history, f :: feeds =>
    let verdicts := judgeByHistory expiry history f.arrivals
    verdicts :: judgeAllByHistory expiry (history ++ verdicts) feeds

/-- Where a batch ends makes no difference to the history. -/
theorem flatten_judgeAllByHistory (expiry : Duration) (history : List Verdict)
    (feeds : List Feed) :
    (judgeAllByHistory expiry history feeds).flatten
      = judgeByHistory expiry history (arrivals feeds) := by
  induction feeds generalizing history with
  | nil => rfl
  | cons f feeds ih =>
    rw [arrivals, List.flatMap_cons, judgeByHistory_append, judgeAllByHistory, List.flatten_cons,
      ih, arrivals]

theorem map_record_judgeAllByHistory (expiry : Duration) (history : List Verdict)
    (feeds : List Feed) :
    (judgeAllByHistory expiry history feeds).map (·.map fun v => (v.record, v.arrived))
      = feeds.map Feed.arrivals := by
  induction feeds generalizing history with
  | nil => rfl
  | cons f feeds ih =>
    rw [judgeAllByHistory, List.map_cons, map_record_judgeByHistory, ih, List.map_cons]

namespace FollowsHistory

variable {judge : Judge}

/-- What holds of one batch holds of all: the relation at the instant of a feed
holds at that of the next, as time does not go back. -/
theorem judgeAll_eq (hjudge : FollowsHistory judge) {d d' : Deduper} {feeds : List Feed}
    {history : List Verdict} {now : Instant} {verdicts : List (List Verdict)}
    (hkind : d.kind = .firstCome) (h : Remembers d.expiry d.memory history now)
    (hlater : ∀ f ∈ feeds, now ≤ f.now) (hordered : Ordered feeds)
    (heq : judgeAll judge d feeds = .ok (verdicts, d')) :
    verdicts = judgeAllByHistory d.expiry history feeds := by
  induction feeds generalizing d history now verdicts with
  | nil =>
    obtain ⟨rfl, -⟩ := Prod.mk.inj (Except.ok.inj heq)
    rfl
  | cons f feeds ih =>
    obtain ⟨hf, hfeeds⟩ := List.pairwise_cons.1 hordered
    obtain ⟨judged, d₁, later, hone, hrest, rfl⟩ := judgeAll_cons_eq_ok.1 heq
    obtain ⟨hagrees, h₁⟩ := hjudge.agrees hone hkind (h.later (hlater f (List.mem_cons_self)))
    obtain ⟨m, rfl⟩ := hjudge.keeps hone
    have hverdicts := ih (d := { d with memory := m }) hkind h₁ hf hfeeds hrest
    rw [hverdicts, hagrees, judgeAllByHistory, Feed.arrivals]

theorem judgeAll_answers (hjudge : FollowsHistory judge) {d : Deduper} {feeds : List Feed}
    (hkind : d.kind = .firstCome) (hfits : Fits d.expiry feeds) :
    ∃ verdicts d', judgeAll judge d feeds = .ok (verdicts, d') := by
  induction feeds generalizing d with
  | nil => exact ⟨[], d, rfl⟩
  | cons f feeds ih =>
    have hlimit : f.batch ≠ [] → f.now + d.expiry.nanos < Instant.limit := by
      intro hne
      obtain ⟨r, hr⟩ := List.exists_mem_of_ne_nil _ hne
      exact hfits (r, f.now)
        (List.mem_flatMap.2 ⟨f, List.mem_cons_self, List.mem_map.2 ⟨r, hr, rfl⟩⟩)
    obtain ⟨⟨judged, d₁⟩, hone⟩ := hjudge.answers d f.batch f.now hkind hlimit
    obtain ⟨m, rfl⟩ := hjudge.keeps hone
    have hfits' : Fits d.expiry feeds := fun x hx => hfits x (List.mem_append_right _ hx)
    obtain ⟨later, d', hrest⟩ := ih (d := { d with memory := m }) hkind hfits'
    exact ⟨_, _, judgeAll_cons_eq_ok.2 ⟨_, _, _, hone, hrest, rfl⟩⟩

/-- A run from the start says what the history says, whoever judges. -/
theorem judgeAll_empty (hjudge : FollowsHistory judge) (mode : Mode) {expiry : Duration}
    {feeds : List Feed} (hordered : Ordered feeds) (hfits : Fits expiry feeds) :
    ∃ d, judgeAll judge (.empty .firstCome mode expiry) feeds
      = .ok (judgeAllByHistory expiry [] feeds, d) := by
  obtain ⟨verdicts, d, heq⟩ :=
    hjudge.judgeAll_answers (d := .empty .firstCome mode expiry) rfl hfits
  have hverdicts := hjudge.judgeAll_eq rfl (.nil expiry 0) (fun _ _ => Nat.zero_le _) hordered heq
  exact ⟨d, hverdicts ▸ heq⟩

end FollowsHistory

/-! ## What the deduper says -/

/-- Each verdict of a history is told by the latest owner before it. -/
theorem isDuplicate_iff {expiry : Duration} {xs : List (Record × Instant)}
    {before after : List Verdict} {v : Verdict}
    (h : judgeByHistory expiry [] xs = before ++ v :: after) :
    v.isDuplicate = true ↔
      ∃ o, IsLatestOwner before v.flow o ∧ o.ifIndex ≠ v.ifIndex ∧
        v.arrived < o.expiresAt expiry := by
  rw [isDuplicate_of_judgeByHistory h, List.nil_append, ownedElsewhere_eq_true_iff]
  rfl

/-- As long as no ownership outlasts time, the deduper finds in each record a
duplicate just if the latest owner of its flow before it is another interface
whose time is not up. It would say the same if it never forgot, if the same
records came in other batches at the same instants, and of each flow if the
records of all others had not come. -/
theorem dedupAll_judges_by_history (mode : Mode) (expiry : Duration) {feeds : List Feed}
    (hordered : Ordered feeds) (hfits : Fits expiry feeds) :
    ∃ verdicts d,
      judgeAll Deduper.judgeBatch (.empty .firstCome mode expiry) feeds = .ok (verdicts, d) ∧
      dedupAll (.empty .firstCome mode expiry) feeds
        = .ok (verdicts.map (·.flatMap (Verdict.output mode)), d) ∧
      verdicts.map (·.map fun v => (v.record, v.arrived)) = feeds.map Feed.arrivals ∧
      (∀ before v after, verdicts.flatten = before ++ v :: after →
        (v.isDuplicate = true ↔
          ∃ o, IsLatestOwner before v.flow o ∧ o.ifIndex ≠ v.ifIndex ∧
            v.arrived < o.arrived + expiry.nanos)) ∧
      (∃ d', judgeAll Deduper.judgeEach (.empty .firstCome mode expiry) feeds
        = .ok (verdicts, d')) ∧
      (∀ feeds', Ordered feeds' → arrivals feeds' = arrivals feeds →
        ∃ verdicts' d', judgeAll Deduper.judgeBatch (.empty .firstCome mode expiry) feeds'
            = .ok (verdicts', d') ∧
          verdicts'.flatten = verdicts.flatten) ∧
      (∀ flow, ∃ verdicts' d',
        judgeAll Deduper.judgeBatch (.empty .firstCome mode expiry) (feeds.map (Feed.only flow))
            = .ok (verdicts', d') ∧
          verdicts'.flatten = verdicts.flatten.filter (·.flow = flow)) := by
  obtain ⟨d, hrun⟩ := judgeBatch_followsHistory.judgeAll_empty mode hordered hfits
  have hflatten := flatten_judgeAllByHistory expiry [] feeds
  refine ⟨_, d, hrun, dedupAll_eq_ok.2 ⟨_, hrun, rfl⟩, map_record_judgeAllByHistory expiry [] feeds,
    ?_, ?_, ?_, ?_⟩
  · intro before v after h
    exact isDuplicate_iff (hflatten.symm.trans h)
  · exact judgeEach_followsHistory.judgeAll_empty mode hordered hfits
  · intro feeds' hordered' hsame
    have hfits' : Fits expiry feeds' := fun x hx => hfits x (hsame ▸ hx)
    obtain ⟨d', hrun'⟩ := judgeBatch_followsHistory.judgeAll_empty mode hordered' hfits'
    refine ⟨_, d', hrun', ?_⟩
    rw [hflatten, flatten_judgeAllByHistory, hsame]
  · intro flow
    have hfits' : Fits expiry (feeds.map (Feed.only flow)) := by
      intro x hx
      rw [arrivals_only] at hx
      exact hfits x ((List.mem_filter.1 hx).1)
    obtain ⟨d', hrun'⟩ := judgeBatch_followsHistory.judgeAll_empty mode (hordered.only flow) hfits'
    refine ⟨_, d', hrun', ?_⟩
    rw [hflatten, flatten_judgeAllByHistory, arrivals_only, filter_judgeByHistory]
    rfl

/-- A record of a flow whose source port is `port`, as the cache makes it. -/
def recordFrom (port : UInt16) (ifIndex : UInt32) : Record :=
  Record.ofMetrics ⟨0⟩ (.tcpFrom port ifIndex) (.ofPacket 60 5)

/-- Interface 3 owns a flow, extends its ownership, and loses it to interface 4
ten nanoseconds later. -/
def takeover : List Feed :=
  [⟨[recordFrom 1 3, recordFrom 2 4, recordFrom 1 4], 0⟩, ⟨[recordFrom 1 3], 6⟩,
    ⟨[recordFrom 1 4], 15⟩, ⟨[recordFrom 1 4, recordFrom 1 3], 16⟩]

/-- Three of the seven records are duplicates. -/
theorem dedupAll_judges_by_history_takeover :
    ∃ verdicts d,
      judgeAll Deduper.judgeBatch (.empty .firstCome .drop ⟨10, by decide⟩) takeover
        = .ok (verdicts, d) ∧
      verdicts.map (·.map Verdict.isDuplicate)
        = [[false, false, true], [false], [true], [false, true]] ∧
      ∀ before v after, verdicts.flatten = before ++ v :: after →
        (v.isDuplicate = true ↔
          ∃ o, IsLatestOwner before v.flow o ∧ o.ifIndex ≠ v.ifIndex ∧
            v.arrived < o.arrived + 10) := by
  have hordered : Ordered takeover := by simp [Ordered, takeover]
  have hfits : Fits ⟨10, by decide⟩ takeover := by
    simp [Fits, arrivals, Feed.arrivals, takeover, Instant.limit, UInt64.size, nanosPerSecond]
  obtain ⟨verdicts, d, hrun, -, -, hiff, -⟩ :=
    dedupAll_judges_by_history .drop ⟨10, by decide⟩ hordered hfits
  have hverdicts : (judgeAll Deduper.judgeBatch (.empty .firstCome .drop ⟨10, by decide⟩) takeover).map
      (fun run => run.1.map (·.map Verdict.isDuplicate))
        = .ok [[false, false, true], [false], [true], [false, true]] := by rfl
  rw [hrun] at hverdicts
  exact ⟨verdicts, d, hrun, Except.ok.inj hverdicts, hiff⟩

end Dedup

end Flowmeter
