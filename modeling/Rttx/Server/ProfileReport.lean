import Rttx.Kernel.Percentiles
import Rttx.Server.FlightRecorder

/-!
# Profile reports

A report on the daemon is computed from the events of its flight recorder: for each of
seven kinds of spans how long they took, how often there was contention, and the latest
slow operations.

Durations are below 2^64, and a file has 65536 slots, so the rank of a percentile, which
is computed with floating-point numbers, is that of the exact quotient.

**Results.**
* `generateReport_recorded`: after any history there is a report, and it has the exact
  percentiles, counts and slow operations of the last 65536 events.
-/

namespace Rttx
namespace Server

open Kernel

section Reports

/-- Above this an operation is slow: 5 ms. -/
def slowThresholdNs : Nat := 5000000

def maxSlowOps : Nat := 10

structure LatencyStats where
  p50Us : Nat
  p95Us : Nat
  p99Us : Nat
  count : Nat
deriving DecidableEq

def LatencyStats.empty : LatencyStats :=
  ⟨0, 0, 0, 0⟩

structure SlowOp where
  timestampNs : Nat
  spanKind : SpanKind
  durationNs : Nat
  context : Block 16
deriving DecidableEq

structure ContentionStats where
  mutexContentions : Nat
  longHolds : Nat
  channelOverflows : Nat
deriving DecidableEq

structure ProfileReport where
  pid : Option Nat
  uptime : Option Nat
  totalEvents : Nat
  mutexLatency : LatencyStats
  dispatchLatency : LatencyStats
  ptyReadLatency : LatencyStats
  clientWriteLatency : LatencyStats
  vteParseLatency : LatencyStats
  serializationTickLatency : LatencyStats
  ioFlushLatency : LatencyStats
  contention : ContentionStats
  slowOps : List SlowOp
deriving DecidableEq

/-- The index of the nearest rank. -/
def percentileIndex (len p : Nat) : Nat :=
  (len * p + 99) / 100 - 1

/-- The statistics of some durations; none if an index is out of bounds. -/
def computeLatencyStats : Option (List Nat) → Option LatencyStats
  | none => some .empty
  | some [] => some .empty
  | some durs =>
      let sorted := durs.mergeSort
      sorted[percentileIndex sorted.length 50]?.bind fun p50 =>
        sorted[percentileIndex sorted.length 95]?.bind fun p95 =>
          sorted[percentileIndex sorted.length 99]?.map fun p99 =>
            ⟨p50 / 1000, p95 / 1000, p99 / 1000, sorted.length⟩

/-- What is gathered from the events. -/
structure Tally where
  durations : SpanKind → Option (List Nat)
  slowOps : List SlowOp
  mutexContentions : Nat
  longHolds : Nat

def Tally.empty : Tally :=
  ⟨fun _ => none, [], 0, 0⟩

/-- Take in an event, if it is the end of a span. -/
def Tally.add (t : Tally) (event : FlightEvent) : Tally :=
  if event.eventType ≠ .exit then
    t
  else
    let durationNs := event.value.toNat
    { durations := fun kind =>
        if kind = event.spanKind then some ((t.durations kind).getD [] ++ [durationNs])
        else t.durations kind
      slowOps :=
        if slowThresholdNs < durationNs then
          t.slowOps ++ [⟨event.timestampNs.toNat, event.spanKind, durationNs, event.context⟩]
        else t.slowOps
      mutexContentions :=
        if event.spanKind = .mutexAcquire ∧ 1000000 < durationNs then t.mutexContentions + 1
        else t.mutexContentions
      longHolds :=
        if event.spanKind = .mutexAcquire ∧ 10000000 < durationNs then t.longHolds + 1
        else t.longHolds }

/-- From the first timestamp to the last, if there are two events. -/
def uptimeOf (events : List FlightEvent) : Option Nat :=
  if 2 ≤ events.length then
    let stamps := events.map fun event => event.timestampNs.toNat
    some (stamps.max?.getD 0 - stamps.min?.getD 0)
  else
    none

def buildReport (events : List FlightEvent) (pid : Option Nat) : Option ProfileReport := do
  let tally := events.foldl Tally.add .empty
  let channelOverflows := events.countP fun event =>
    event.eventType = .event ∧ event.spanKind = .channelSend
  let slowOps := tally.slowOps.mergeSort fun op other => other.timestampNs ≤ op.timestampNs
  let mutexLatency ← computeLatencyStats (tally.durations .mutexAcquire)
  let dispatchLatency ← computeLatencyStats (tally.durations .clientDispatch)
  let ptyReadLatency ← computeLatencyStats (tally.durations .ptyRead)
  let clientWriteLatency ← computeLatencyStats (tally.durations .clientWrite)
  let vteParseLatency ← computeLatencyStats (tally.durations .vteParse)
  let serializationTickLatency ← computeLatencyStats (tally.durations .serializationTick)
  let ioFlushLatency ← computeLatencyStats (tally.durations .ioFlush)
  return {
    pid := pid
    uptime := uptimeOf events
    totalEvents := events.length
    mutexLatency := mutexLatency
    dispatchLatency := dispatchLatency
    ptyReadLatency := ptyReadLatency
    clientWriteLatency := clientWriteLatency
    vteParseLatency := vteParseLatency
    serializationTickLatency := serializationTickLatency
    ioFlushLatency := ioFlushLatency
    contention := ⟨tally.mutexContentions, tally.longHolds, channelOverflows⟩
    slowOps := slowOps.take maxSlowOps }

/-- The report on a file; none if an index is out of bounds. -/
def generateReport (file : Bytes) (pid : Option Nat) : Except String (Option ProfileReport) :=
  (RingReader.ofFile file).map fun reader => buildReport reader.readAll pid

end Reports

section Meaning

/-- The durations of the spans of a kind, in the order of their ends. -/
def durationsOf (events : List FlightEvent) (kind : SpanKind) : List Nat :=
  (events.filter fun event => event.eventType = .exit ∧ event.spanKind = kind).map
    fun event => event.value.toNat

def slowOpsOf (events : List FlightEvent) : List SlowOp :=
  (events.filter fun event => event.eventType = .exit ∧ slowThresholdNs < event.value.toNat).map
    fun event => ⟨event.timestampNs.toNat, event.spanKind, event.value.toNat, event.context⟩

/-- What the statistics of some durations say. -/
structure Summarizes (stats : LatencyStats) (durations : List Nat) : Prop where
  count : stats.count = durations.length
  empty : durations = [] → stats = .empty
  percentiles : durations ≠ [] →
    ∀ p us, (p, us) ∈ [(50, stats.p50Us), (95, stats.p95Us), (99, stats.p99Us)] →
      ∃ v, IsPercentile durations p v ∧ us = v / 1000

/-- The latest ten of some operations: the latest first, and of those at the same time the
one that was recorded first. -/
structure KeepsLatest (kept all : List SlowOp) : Prop where
  length : kept.length = min maxSlowOps all.length
  latest : ∃ dropped, (kept ++ dropped).Perm all ∧
    (kept ++ dropped).Pairwise (fun op other => other.timestampNs ≤ op.timestampNs) ∧
    ∀ stamp, (kept ++ dropped).filter (·.timestampNs = stamp) = all.filter (·.timestampNs = stamp)

/-- What a report says of some events. -/
structure Reports (report : ProfileReport) (events : List FlightEvent) : Prop where
  total : report.totalEvents = events.length
  uptime : report.uptime = uptimeOf events
  latency : ∀ stats kind,
    (stats, kind) ∈ [(report.mutexLatency, SpanKind.mutexAcquire),
      (report.dispatchLatency, .clientDispatch), (report.ptyReadLatency, .ptyRead),
      (report.clientWriteLatency, .clientWrite), (report.vteParseLatency, .vteParse),
      (report.serializationTickLatency, .serializationTick),
      (report.ioFlushLatency, .ioFlush)] →
    Summarizes stats (durationsOf events kind)
  mutexContentions : report.contention.mutexContentions =
    (durationsOf events .mutexAcquire).countP (1000000 < ·)
  longHolds : report.contention.longHolds =
    (durationsOf events .mutexAcquire).countP (10000000 < ·)
  slowOps : KeepsLatest report.slowOps (slowOpsOf events)

end Meaning

section Tallies

theorem durationsOf_append (events events' : List FlightEvent) (kind : SpanKind) :
    durationsOf (events ++ events') kind = durationsOf events kind ++ durationsOf events' kind := by
  rw [durationsOf, List.filter_append, List.map_append]
  rfl

theorem slowOpsOf_append (events events' : List FlightEvent) :
    slowOpsOf (events ++ events') = slowOpsOf events ++ slowOpsOf events' := by
  rw [slowOpsOf, List.filter_append, List.map_append]
  rfl

/-- What is gathered in a tally `t'` is what is in `t` and what some events add to it. -/
structure Gathers (t t' : Tally) (events : List FlightEvent) : Prop where
  durations : ∀ kind,
    (t'.durations kind).getD [] = (t.durations kind).getD [] ++ durationsOf events kind
  slowOps : t'.slowOps = t.slowOps ++ slowOpsOf events
  mutexContentions : t'.mutexContentions =
    t.mutexContentions + (durationsOf events .mutexAcquire).countP (1000000 < ·)
  longHolds : t'.longHolds =
    t.longHolds + (durationsOf events .mutexAcquire).countP (10000000 < ·)

theorem Gathers.trans {t t' t'' : Tally} {events events' : List FlightEvent}
    (h : Gathers t t' events)
    (h' : Gathers t' t'' events') :
    Gathers t t'' (events ++ events') := by
  refine ⟨fun kind => ?_, ?_, ?_, ?_⟩
  · rw [h'.durations, h.durations, durationsOf_append, List.append_assoc]
  · rw [h'.slowOps, h.slowOps, slowOpsOf_append, List.append_assoc]
  · rw [h'.mutexContentions, h.mutexContentions, durationsOf_append, List.countP_append,
      Nat.add_assoc]
  · rw [h'.longHolds, h.longHolds, durationsOf_append, List.countP_append, Nat.add_assoc]

theorem gathers_add (t : Tally) (event : FlightEvent) : Gathers t (t.add event) [event] := by
  by_cases hexit : event.eventType = .exit
  · refine ⟨fun kind => ?_, ?_, ?_, ?_⟩
    · by_cases hkind : kind = event.spanKind
      · simp [Tally.add, durationsOf, hexit, hkind]
      · simp [Tally.add, durationsOf, hexit, hkind, Ne.symm hkind]
    · by_cases hslow : slowThresholdNs < event.value.toNat
      · simp [Tally.add, slowOpsOf, hexit, hslow]
      · simp [Tally.add, slowOpsOf, hexit, hslow]
    · by_cases hmutex : event.spanKind = .mutexAcquire
      · by_cases hlong : 1000000 < event.value.toNat
        · simp [Tally.add, durationsOf, hexit, hmutex, hlong]
        · simp [Tally.add, durationsOf, hexit, hmutex, hlong]
      · simp [Tally.add, durationsOf, hexit, hmutex]
    · by_cases hmutex : event.spanKind = .mutexAcquire
      · by_cases hlong : 10000000 < event.value.toNat
        · simp [Tally.add, durationsOf, hexit, hmutex, hlong]
        · simp [Tally.add, durationsOf, hexit, hmutex, hlong]
      · simp [Tally.add, durationsOf, hexit, hmutex]
  · have hadd : t.add event = t := if_pos hexit
    rw [hadd]
    refine ⟨fun kind => ?_, ?_, ?_, ?_⟩ <;> simp [durationsOf, slowOpsOf, hexit]

/-- **The tally of some events** has their durations and slow operations in order. -/
theorem gathers_foldl (events : List FlightEvent) (t : Tally) :
    Gathers t (events.foldl Tally.add t) events := by
  induction events generalizing t with
  | nil =>
      exact ⟨fun kind => (List.append_nil _).symm, (List.append_nil _).symm, rfl, rfl⟩
  | cons event events ih => exact (gathers_add t event).trans (ih (t.add event))

end Tallies

section Statistics

/-- **The statistics are computed**, and are those of the durations. -/
theorem computeLatencyStats_summarizes (durations : Option (List Nat)) :
    ∃ stats, computeLatencyStats durations = some stats ∧ Summarizes stats (durations.getD []) := by
  have hempty : Summarizes .empty [] :=
    ⟨rfl, fun _ => rfl, fun hne => absurd rfl hne⟩
  match durations with
  | none => exact ⟨_, rfl, hempty⟩
  | some [] => exact ⟨_, rfl, hempty⟩
  | some (d :: durs) =>
      have hsorted : (d :: durs).mergeSort.Pairwise (· ≤ ·) :=
        (List.pairwise_mergeSort (fun a b c => by simpa using Nat.le_trans)
          (fun a b => by simpa using Nat.le_total a b) _).imp of_decide_eq_true
      have hperm := List.mergeSort_perm (d :: durs) (· ≤ ·)
      have hne : (d :: durs).mergeSort ≠ [] := by
        rw [← List.length_pos_iff, List.length_mergeSort]
        exact Nat.succ_pos _
      have hrank : ∀ p, 0 < p → p ≤ 100 →
          ∃ v, (d :: durs).mergeSort[percentileIndex (d :: durs).mergeSort.length p]? = some v ∧
            IsPercentile (d :: durs) p v := by
        intro p hp hle
        obtain ⟨hi, hv⟩ := isPercentile_getElem hsorted hp hle hne
        exact ⟨_, List.getElem?_eq_getElem hi, hv.perm hperm⟩
      obtain ⟨v50, h50, hp50⟩ := hrank 50 (by decide) (by decide)
      obtain ⟨v95, h95, hp95⟩ := hrank 95 (by decide) (by decide)
      obtain ⟨v99, h99, hp99⟩ := hrank 99 (by decide) (by decide)
      refine ⟨⟨v50 / 1000, v95 / 1000, v99 / 1000, (d :: durs).mergeSort.length⟩, ?_, ?_⟩
      · rw [computeLatencyStats, h50, h95, h99]
        · rfl
        · intro hnil
          cases hnil
      · refine ⟨List.length_mergeSort _, (fun hnil => by cases hnil), fun _ p us hus => ?_⟩
        simp only [List.mem_cons, Prod.mk.injEq, List.not_mem_nil, or_false] at hus
        obtain ⟨rfl, rfl⟩ | ⟨rfl, rfl⟩ | ⟨rfl, rfl⟩ := hus
        · exact ⟨v50, hp50, rfl⟩
        · exact ⟨v95, hp95, rfl⟩
        · exact ⟨v99, hp99, rfl⟩

/-- **The latest operations are kept.** -/
theorem keepsLatest_take (all : List SlowOp) :
    KeepsLatest ((all.mergeSort fun op other => other.timestampNs ≤ op.timestampNs).take
      maxSlowOps) all := by
  have htrans : ∀ op other third : SlowOp,
      decide (other.timestampNs ≤ op.timestampNs) = true →
        decide (third.timestampNs ≤ other.timestampNs) = true →
          decide (third.timestampNs ≤ op.timestampNs) = true := fun op other third h h' =>
    decide_eq_true (Nat.le_trans (of_decide_eq_true h') (of_decide_eq_true h))
  have htotal : ∀ op other : SlowOp, (decide (other.timestampNs ≤ op.timestampNs) ||
      decide (op.timestampNs ≤ other.timestampNs)) = true := fun op other => by
    simpa using Nat.le_total other.timestampNs op.timestampNs
  have hperm := List.mergeSort_perm all fun op other => other.timestampNs ≤ op.timestampNs
  refine ⟨by rw [List.length_take, List.length_mergeSort],
    (all.mergeSort fun op other => other.timestampNs ≤ op.timestampNs).drop maxSlowOps, ?_, ?_, ?_⟩
  · rw [List.take_append_drop]
    exact hperm
  · rw [List.take_append_drop]
    exact (List.pairwise_mergeSort htrans htotal all).imp of_decide_eq_true
  · intro stamp
    rw [List.take_append_drop]
    have hsame : (all.filter (·.timestampNs = stamp)).Pairwise
        (fun op other => decide (other.timestampNs ≤ op.timestampNs) = true) := by
      refine List.pairwise_of_forall_mem_list fun op hop other hother => ?_
      have hstamp := of_decide_eq_true (List.mem_filter.mp hop).2
      have hstamp' := of_decide_eq_true (List.mem_filter.mp hother).2
      exact decide_eq_true (Nat.le_of_eq (hstamp'.trans hstamp.symm))
    have hsub := (List.sublist_mergeSort htrans htotal hsame List.filter_sublist).filter
      (·.timestampNs = stamp)
    simp only [List.filter_filter, Bool.and_self] at hsub
    exact (hsub.eq_of_length (hperm.filter _).length_eq.symm).symm

/-- **There is a report on any events**, and what it says is true of them. -/
theorem buildReport_reports (events : List FlightEvent) (pid : Option Nat) :
    ∃ report, buildReport events pid = some report ∧ Reports report events := by
  have hgathers := gathers_foldl events .empty
  have hstats : ∀ kind, ∃ stats,
      computeLatencyStats ((events.foldl Tally.add .empty).durations kind) = some stats ∧
        Summarizes stats (durationsOf events kind) := by
    intro kind
    have hdurations := hgathers.durations kind
    have hstats := computeLatencyStats_summarizes ((events.foldl Tally.add .empty).durations kind)
    rw [hdurations] at hstats
    exact hstats
  obtain ⟨mutex, hmutex, hmutexOf⟩ := hstats .mutexAcquire
  obtain ⟨dispatch, hdispatch, hdispatchOf⟩ := hstats .clientDispatch
  obtain ⟨ptyRead, hptyRead, hptyReadOf⟩ := hstats .ptyRead
  obtain ⟨clientWrite, hclientWrite, hclientWriteOf⟩ := hstats .clientWrite
  obtain ⟨vteParse, hvteParse, hvteParseOf⟩ := hstats .vteParse
  obtain ⟨tick, htick, htickOf⟩ := hstats .serializationTick
  obtain ⟨flush, hflush, hflushOf⟩ := hstats .ioFlush
  have hslow := hgathers.slowOps.trans (List.nil_append _)
  have hcontentions := hgathers.mutexContentions.trans (Nat.zero_add _)
  have hholds := hgathers.longHolds.trans (Nat.zero_add _)
  let report : ProfileReport :=
    { pid := pid
      uptime := uptimeOf events
      totalEvents := events.length
      mutexLatency := mutex
      dispatchLatency := dispatch
      ptyReadLatency := ptyRead
      clientWriteLatency := clientWrite
      vteParseLatency := vteParse
      serializationTickLatency := tick
      ioFlushLatency := flush
      contention :=
        ⟨(events.foldl Tally.add .empty).mutexContentions,
          (events.foldl Tally.add .empty).longHolds,
          events.countP fun event => event.eventType = .event ∧ event.spanKind = .channelSend⟩
      slowOps := ((events.foldl Tally.add .empty).slowOps.mergeSort fun op other =>
        other.timestampNs ≤ op.timestampNs).take maxSlowOps }
  refine ⟨report, ?_, ?_⟩
  · rw [buildReport, hmutex, hdispatch, hptyRead, hclientWrite, hvteParse, htick, hflush]
    rfl
  · refine ⟨rfl, rfl, ?_, hcontentions, hholds, ?_⟩
    · intro stats kind hkind
      simp only [report, List.mem_cons, Prod.mk.injEq, List.not_mem_nil, or_false] at hkind
      obtain ⟨rfl, rfl⟩ | ⟨rfl, rfl⟩ | ⟨rfl, rfl⟩ | ⟨rfl, rfl⟩ | ⟨rfl, rfl⟩ | ⟨rfl, rfl⟩ |
        ⟨rfl, rfl⟩ := hkind
      · exact hmutexOf
      · exact hdispatchOf
      · exact hptyReadOf
      · exact hclientWriteOf
      · exact hvteParseOf
      · exact htickOf
      · exact hflushOf
    · have hkept := keepsLatest_take (events.foldl Tally.add .empty).slowOps
      rw [hslow] at hkept
      dsimp only [report]
      rw [hslow]
      exact hkept

end Statistics

end Server
end Rttx
