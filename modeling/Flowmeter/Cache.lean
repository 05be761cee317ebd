-- SUMMARY: The flow cache, which merges raw records per flow and evicts them by age, by pressure and on demand.
import Flowmeter.Flow.Record

/-!
# Flow cache

The cache keeps one entry per flow. A raw record of a cached flow is merged
into its entry; any other one gets an entry of its own, and when the cache is
full the oldest entry leaves to make room. Entries also leave once they have
lived for the active timeout, or all together.

The entries are kept by flow, and beside them the order in which they are
evicted: by creation, and flows created at one instant by identity. A merge
changes neither.
-/

namespace Flowmeter

namespace Cache

/-- A flow in the cache. -/
structure Entry where
  metrics : Metrics
  created : Instant
deriving DecidableEq

/-- The place of an entry in the order of eviction. -/
structure Rank where
  created : Instant
  id : FlowId
deriving DecidableEq

namespace Rank

def cmp : Rank → Rank → Ordering := compareLex (compareOn created) (compareOn id)

instance : Ord Rank := ⟨cmp⟩

instance : Std.TransOrd Rank :=
  inferInstanceAs (Std.TransCmp (compareLex (compareOn created) (compareOn id)))

instance : Std.LawfulEqOrd Rank where
  eq_of_compare {a b} h := by
    obtain ⟨hc, hi⟩ := Ordering.then_eq_eq.1 h
    have hc := Std.LawfulEqOrd.eq_of_compare (α := Instant) hc
    have hi := Std.LawfulEqOrd.eq_of_compare (α := FlowId) hi
    cases a; cases b; simp_all

/-- Adds a rank to ranks in ascending order, unless it is one of them. -/
def insert (r : Rank) : List Rank → List Rank
  | [] => [r]
  | s :: ranks =>
    match compare r s with
    | .lt => r :: s :: ranks
    | .eq => s :: ranks
    | .gt => s :: insert r ranks

end Rank

end Cache

open Cache in
structure Cache where
  /-- The most entries the cache may hold, at least one. -/
  capacity : Nat
  timeout : Duration
  clock : Clock
  /-- The live flows, each once. -/
  entries : List (FlowId × Entry)
  /-- The ranks of the live flows in ascending order. -/
  order : List Rank

namespace Cache

/-- A cache for `max` flows; there is always room for one. -/
def empty (max : Nat) (timeout : Duration) (clock : Clock) : Cache where
  capacity := Nat.max 1 max
  timeout := timeout
  clock := clock
  entries := []
  order := []

def size (c : Cache) : Nat := c.entries.length

def isEmpty (c : Cache) : Bool := c.entries.isEmpty

/-- The entry of a flow. -/
def find? (c : Cache) (id : FlowId) : Option Entry := c.entries.lookup id

/-- Evicts the entry of the least rank. -/
def pop (c : Cache) : Option Record × Cache :=
  match c.order with
  | [] => (none, c)
  | first :: ranks =>
    match c.find? first.id with
    | none => (none, { c with order := ranks })
    | some entry =>
      (some (Record.ofMetrics c.clock first.id entry.metrics),
        { c with order := ranks, entries := c.entries.filter (·.1 ≠ first.id) })

/-- Merges `metrics` into the entry of `id`. -/
def mergeInto (c : Cache) (id : FlowId) (metrics : Metrics) : Cache :=
  let update := fun (flow : FlowId × Entry) =>
    if flow.1 = id then (flow.1, { flow.2 with metrics := flow.2.metrics.merge metrics }) else flow
  { c with entries := c.entries.map update }

/-- Gives `id` an entry created at `now`. -/
def addEntry (c : Cache) (id : FlowId) (metrics : Metrics) (now : Instant) : Cache :=
  { c with
    entries := c.entries ++ [(id, ⟨metrics, now⟩)]
    order := Rank.insert ⟨now, id⟩ c.order }

/-- Takes in a raw record, and returns the record evicted to make room for it. -/
def insert (c : Cache) (r : RawRecord) (now : Instant) : Option Record × Cache :=
  match c.find? r.id with
  | some _ => (none, c.mergeInto r.id r.metrics)
  | none =>
    let (evicted, c) := if c.capacity ≤ c.size then c.pop else (none, c)
    (evicted, c.addEntry r.id r.metrics now)

/-- Evicts, in order, at most `count` entries that have lived for the timeout at `now`. -/
def expireUpTo : Nat → Cache → Instant → Except TimeOverflow (Batch × Cache)
  | 0, c, _ => .ok ([], c)
  | count + 1, c, now =>
    match c.order with
    | [] => .ok ([], c)
    | first :: _ => do
      let due ← Instant.add first.created c.timeout
      if now < due then return ([], c)
      let (evicted, c) := c.pop
      let (later, c) ← expireUpTo count c now
      return (evicted.toList ++ later, c)

/-- Evicts, in order, every entry that has lived for the timeout at `now`. -/
def expire (c : Cache) (now : Instant) : Except TimeOverflow (Batch × Cache) :=
  expireUpTo c.order.length c now

/-- Evicts every entry. The entries are kept by flow and not in an order, so they may leave in
any, and only the members of the batch can be relied on. Here the flow that came into the cache
first leaves first. -/
def drain (c : Cache) : Batch × Cache :=
  (c.entries.map fun (id, entry) => Record.ofMetrics c.clock id entry.metrics,
    { c with entries := [], order := [] })

end Cache

end Flowmeter
