/-
Module: ProcessWatch.Statistics
Purpose: Counters over the processes of a store, kept up at every start and exit and never computed
  by a scan of the records.
Trusted boundary: counters of starts and exits have no upper bound
Main exports: Statistics, Statistics.onStart, Statistics.onExit, Snapshot, Snapshot.turnover?
-/
import ProcessWatch.Record

namespace ProcessWatch

/-- Process counts and lifetime figures since the last reset.  Lifetimes are in nanoseconds, and
their least, greatest and mean value are zero until an exit is counted. -/
structure Statistics where
  created : Nat := 0
  exited : Nat := 0
  current : Nat := 0
  peak : Nat := 0
  totalCpuTime : Nat := 0
  totalLifetime : Nat := 0
  averageLifetime : Nat := 0
  minLifetime : Nat := 0
  maxLifetime : Nat := 0
deriving DecidableEq, Repr, Inhabited

/-- The mean of `count` values, the last of which is `value`, from the mean of those before it.
The product-sum is kept in 128 bits and the quotient in 64. -/
def runningMean (mean count value : Nat) : Nat :=
  Word.wrap ((mean * (count - 1) + value) % Word.wideSize / count)

namespace Statistics

/-- Count a process that has started. -/
def onStart (stats : Statistics) : Statistics :=
  { stats with
    created := stats.created + 1
    current := stats.current + 1
    peak := max stats.peak (stats.current + 1) }

/-- Count a process that has ended after `lifetime` nanoseconds. -/
def onExit (stats : Statistics) (lifetime : Nat) (usage : Usage) : Statistics :=
  let count := stats.exited + 1
  { stats with
    exited := count
    current := stats.current - 1
    totalCpuTime := Word.saturate (stats.totalCpuTime + usage.cpuTime)
    totalLifetime := Word.saturate (stats.totalLifetime + lifetime)
    averageLifetime := runningMean stats.averageLifetime count lifetime
    minLifetime := if count = 1 then lifetime else min stats.minLifetime lifetime
    maxLifetime := if count = 1 then lifetime else max stats.maxLifetime lifetime }

end Statistics

/-- The counters of a store together with how full and how old it is. -/
structure Snapshot where
  stats : Statistics
  records : Nat
  capacity : Nat
  monitoring : Bool
  uptime : Duration
deriving DecidableEq, Repr, Inhabited

/-- Exits for each second of uptime, once there is an exit and a whole second to count. -/
def Snapshot.turnover? (snapshot : Snapshot) : Option Nat :=
  if snapshot.stats.exited = 0 ∨ snapshot.uptime.seconds = 0 then
    none
  else
    some (snapshot.stats.exited / snapshot.uptime.seconds)

end ProcessWatch
