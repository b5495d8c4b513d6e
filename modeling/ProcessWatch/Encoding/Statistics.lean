/-
Module: ProcessWatch.Encoding.Statistics
Purpose: Counters, snapshots and spans of time as JSON.
Trusted boundary: none
Main exports: Duration.encode, Duration.decode?, Statistics.encode, Statistics.decode?,
  Snapshot.encode, Snapshot.decode?
-/
import ProcessWatch.Encoding.Basic
import ProcessWatch.Statistics

namespace ProcessWatch

namespace Duration

/-- A span as an object of its seconds and nanoseconds. -/
def encode (span : Duration) : Json :=
  .object [("secs", .ofNat span.seconds), ("nanos", .ofNat span.nanos)]

/-- The value has no member besides those of a span. -/
def hasOwnMembers : Json → Bool
  | .object members => members.all fun (name, _) => name = "secs" || name = "nanos"
  | _ => true

/-- The span that a value gives: nothing but seconds, which fit a word, and nanoseconds, which fit
half of one.  Nanoseconds beyond a second count as seconds. -/
def decode? (json : Json) : Option Duration := do
  if hasOwnMembers json then
    match ← json.slots? ["secs", "nanos"] with
    | [seconds, nanos] =>
        let span := ofParts (← seconds.required Word.decode?)
          (← nanos.required (Json.natural? UInt32.size))
        if span.seconds < Word.size then some span else none
    | _ => none
  else
    none

end Duration

namespace Statistics

/-- Counters as an object. -/
def encode (stats : Statistics) : Json :=
  .object
    [ ("created", .ofNat stats.created),
      ("exited", .ofNat stats.exited),
      ("current", .ofNat stats.current),
      ("peak", .ofNat stats.peak),
      ("total_cpu_time_ns", .ofNat stats.totalCpuTime),
      ("total_lifetime_ns", .ofNat stats.totalLifetime),
      ("avg_lifetime_ns", .ofNat stats.averageLifetime),
      ("min_lifetime_ns", .ofNat stats.minLifetime),
      ("max_lifetime_ns", .ofNat stats.maxLifetime) ]

/-- The counters that a value gives. -/
def decode? (json : Json) : Option Statistics := do
  let slots ← json.slots?
    ["created", "exited", "current", "peak", "total_cpu_time_ns", "total_lifetime_ns",
      "avg_lifetime_ns", "min_lifetime_ns", "max_lifetime_ns"]
  match slots with
  | [created, exited, current, peak, totalCpuTime, totalLifetime, average, least, greatest] =>
      return {
        created := ← created.required Word.decode?
        exited := ← exited.required Word.decode?
        current := ← current.required Word.decode?
        peak := ← peak.required Word.decode?
        totalCpuTime := ← totalCpuTime.required Word.decode?
        totalLifetime := ← totalLifetime.required Word.decode?
        averageLifetime := ← average.required Word.decode?
        minLifetime := ← least.required Word.decode?
        maxLifetime := ← greatest.required Word.decode? }
  | _ => none

end Statistics

namespace Snapshot

/-- A snapshot as an object. -/
def encode (snapshot : Snapshot) : Json :=
  .object
    [ ("stats", snapshot.stats.encode),
      ("records_in_memory", .ofNat snapshot.records),
      ("capacity", .ofNat snapshot.capacity),
      ("monitoring_enabled", .bool snapshot.monitoring),
      ("uptime", snapshot.uptime.encode) ]

/-- The snapshot that a value gives. -/
def decode? (json : Json) : Option Snapshot := do
  let slots ← json.slots?
    ["stats", "records_in_memory", "capacity", "monitoring_enabled", "uptime"]
  match slots with
  | [stats, records, capacity, monitoring, uptime] =>
      return {
        stats := ← stats.required Statistics.decode?
        records := ← records.required Word.decode?
        capacity := ← capacity.required Word.decode?
        monitoring := ← monitoring.required Json.bool?
        uptime := ← uptime.required Duration.decode? }
  | _ => none

end Snapshot

end ProcessWatch
