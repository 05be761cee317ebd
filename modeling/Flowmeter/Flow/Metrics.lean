-- SUMMARY: Counters of a flow and how the counters of two samples merge.

/-!
# Metrics

What a probe counted for one flow between two monotonic timestamps. Merging
two samples adds their counts, saturating at the width of the counter, takes
the earlier start and the later end, joins the flags and keeps the error
number of the first.
-/

namespace Flowmeter

structure Metrics where
  packets : UInt32
  bytes : UInt64
  /-- Monotonic time of the first packet in nanoseconds. -/
  start : UInt64
  /-- Monotonic time of the last packet in nanoseconds. -/
  finish : UInt64
  flags : UInt16
  errno : UInt8
deriving DecidableEq

namespace Metrics

/-- The probe's error number for a flow that found its flow map full. -/
def mapFullErrno : UInt8 := 7

def mapFull (m : Metrics) : Bool := m.errno == mapFullErrno

def addPackets (a b : UInt32) : UInt32 := UInt32.ofNat (min (a.toNat + b.toNat) (UInt32.size - 1))

def addBytes (a b : UInt64) : UInt64 := UInt64.ofNat (min (a.toNat + b.toNat) (UInt64.size - 1))

def merge (a b : Metrics) : Metrics where
  packets := addPackets a.packets b.packets
  bytes := addBytes a.bytes b.bytes
  start := min a.start b.start
  finish := max a.finish b.finish
  flags := a.flags ||| b.flags
  errno := a.errno

/-- The merge of the first sample with each later one in turn. -/
def mergeAll (first : Metrics) (later : List Metrics) : Metrics := later.foldl merge first

end Metrics

end Flowmeter
