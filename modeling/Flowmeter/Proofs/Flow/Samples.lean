-- SUMMARY: Runs of samples, what they merge to, and metrics that account for a list of samples.
import Flowmeter.Flow.Record

/-!
# Runs of samples

A flow record reports the merge of a run of samples of its flow. Records
account for the samples of a flow when these can be cut into consecutive
non-empty runs, one for each record. Merging is associative, so what the
records report together does not depend on where the cuts are.
-/

namespace Flowmeter

/-! ## Merging is associative -/

namespace Metrics

theorem addPackets_toNat (a b : UInt32) :
    (addPackets a b).toNat = min (a.toNat + b.toNat) (UInt32.size - 1) := by
  rw [addPackets, UInt32.toNat_ofNat_of_lt']
  simp only [UInt32.size]; omega

theorem addBytes_toNat (a b : UInt64) :
    (addBytes a b).toNat = min (a.toNat + b.toNat) (UInt64.size - 1) := by
  rw [addBytes, UInt64.toNat_ofNat_of_lt']
  simp only [UInt64.size]; omega

theorem min_toNat (a b : UInt64) : (min a b).toNat = min a.toNat b.toNat := by
  simp only [min, UInt64.le_iff_toNat_le]
  split <;> rfl

theorem max_toNat (a b : UInt64) : (max a b).toNat = max a.toNat b.toNat := by
  simp only [max, UInt64.le_iff_toNat_le]
  split <;> rfl

/-- A sum that has saturated stays at the limit, whichever sum is taken first. -/
theorem addPackets_assoc (a b c : UInt32) :
    addPackets (addPackets a b) c = addPackets a (addPackets b c) := by
  rw [← UInt32.toNat_inj]
  simp only [addPackets_toNat]; omega

theorem addBytes_assoc (a b c : UInt64) :
    addBytes (addBytes a b) c = addBytes a (addBytes b c) := by
  rw [← UInt64.toNat_inj]
  simp only [addBytes_toNat]; omega

theorem merge_assoc (a b c : Metrics) : (a.merge b).merge c = a.merge (b.merge c) := by
  have hstart : min (min a.start b.start) c.start = min a.start (min b.start c.start) := by
    rw [← UInt64.toNat_inj]
    simp only [min_toNat]; omega
  have hfinish : max (max a.finish b.finish) c.finish = max a.finish (max b.finish c.finish) := by
    rw [← UInt64.toNat_inj]
    simp only [max_toNat]; omega
  simp only [merge, addPackets_assoc, addBytes_assoc, hstart, hfinish, UInt16.or_assoc]

theorem mergeAll_append (first : Metrics) (xs ys : List Metrics) :
    mergeAll first (xs ++ ys) = mergeAll (mergeAll first xs) ys := by
  simp only [mergeAll, List.foldl_append]

theorem mergeAll_merge (a b : Metrics) (later : List Metrics) :
    mergeAll (a.merge b) later = a.merge (mergeAll b later) := by
  induction later generalizing b with
  | nil => rfl
  | cons m later ih =>
    simp only [mergeAll, List.foldl_cons] at ih ⊢
    rw [merge_assoc, ih]

/-- The merge of a list of samples, if there are any. -/
def mergeList? : List Metrics → Option Metrics
  | [] => none
  | first :: later => some (mergeAll first later)

theorem mergeList?_append (xs ys : List Metrics) :
    mergeList? (xs ++ ys) = Option.merge merge (mergeList? xs) (mergeList? ys) := by
  cases xs with
  | nil => cases ys <;> rfl
  | cons x xs =>
    cases ys with
    | nil => simp only [List.append_nil]; rfl
    | cons y ys =>
      simp only [List.cons_append, mergeList?, Option.merge, mergeAll_append]
      rw [← mergeAll_merge]; rfl

end Metrics

/-! ## Runs -/

/-- A non-empty run of samples of one flow. -/
structure Samples where
  first : Metrics
  later : List Metrics

namespace Samples

def toList (s : Samples) : List Metrics := s.first :: s.later

def merged (s : Samples) : Metrics := Metrics.mergeAll s.first s.later

/-- The run of one sample. -/
def single (m : Metrics) : Samples := ⟨m, []⟩

/-- The run with one more sample at its end. -/
def push (s : Samples) (m : Metrics) : Samples := ⟨s.first, s.later ++ [m]⟩

@[simp] theorem toList_single (m : Metrics) : (single m).toList = [m] := rfl

@[simp] theorem merged_single (m : Metrics) : (single m).merged = m := rfl

@[simp] theorem toList_push (s : Samples) (m : Metrics) :
    (s.push m).toList = s.toList ++ [m] := rfl

@[simp] theorem merged_push (s : Samples) (m : Metrics) :
    (s.push m).merged = s.merged.merge m :=
  Metrics.mergeAll_append s.first s.later [m]

theorem mergeList?_toList (s : Samples) : Metrics.mergeList? s.toList = some s.merged := rfl

end Samples

/-! ## Accounting -/

/-- `samples` can be cut into consecutive runs, one for each of `reported`,
each of which merges to what is reported. -/
def Accounts (reported samples : List Metrics) : Prop :=
  ∃ runs : List Samples,
    samples = runs.flatMap Samples.toList ∧ reported = runs.map Samples.merged

namespace Accounts

variable {reported samples : List Metrics} {e m : Metrics}

theorem nil : Accounts [] [] := ⟨[], rfl, rfl⟩

/-- A sample that is reported by itself. -/
theorem add (h : Accounts reported samples) (m : Metrics) :
    Accounts (reported ++ [m]) (samples ++ [m]) := by
  obtain ⟨runs, rfl, rfl⟩ := h
  exact ⟨runs ++ [.single m], by simp, by simp⟩

/-- A sample that is merged into what was reported last. -/
theorem merge_last (h : Accounts (reported ++ [e]) samples) (m : Metrics) :
    Accounts (reported ++ [e.merge m]) (samples ++ [m]) := by
  obtain ⟨runs, rfl, hreported⟩ := h
  obtain ⟨before, last, rfl, rfl, hlast⟩ := List.map_eq_append_iff.1 hreported.symm
  obtain ⟨run, rfl, rfl⟩ := List.map_eq_singleton_iff.1 hlast
  exact ⟨before ++ [run.push m], by simp, by simp⟩

/-- However the samples are cut, together the runs merge to the same. -/
theorem mergeList?_eq (h : Accounts reported samples) :
    Metrics.mergeList? reported = Metrics.mergeList? samples := by
  obtain ⟨runs, rfl, rfl⟩ := h
  induction runs with
  | nil => rfl
  | cons run runs ih =>
    rw [List.map_cons, List.flatMap_cons, ← List.singleton_append, Metrics.mergeList?_append,
      Metrics.mergeList?_append, ih, Samples.mergeList?_toList]
    rfl

end Accounts

/-! ## Flows for instances -/

/-- A TCP connection between two fixed hosts, from `port` and seen on `ifIndex`. -/
def FlowId.tcpFrom (port : UInt16) (ifIndex : UInt32) : FlowId where
  ethProtocol := 0x0800
  direction := .ingress
  srcMac := ⟨⟨[2, 0, 0, 0, 0, 1], rfl⟩⟩
  dstMac := ⟨⟨[2, 0, 0, 0, 0, 2], rfl⟩⟩
  srcAddr := .v4 ⟨⟨[10, 0, 0, 1], rfl⟩⟩
  dstAddr := .v4 ⟨⟨[10, 0, 0, 2], rfl⟩⟩
  srcPort := port
  dstPort := 443
  protocol := .tcp
  icmpType := 0
  icmpCode := 0
  ifIndex := ifIndex

/-- One packet of `size` bytes at `time`. -/
def Metrics.ofPacket (size time : UInt64) : Metrics :=
  { packets := 1, bytes := size, start := time, finish := time, flags := 0, errno := 0 }

end Flowmeter
