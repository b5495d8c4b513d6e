/-
Module: ProcessWatch.Proofs.History
Purpose: What happened to the records of a store, and the counters as they follow from that alone.
Trusted boundary: none
Main exports: Happening, History, History.countedExits, History.running, History.sinceReset,
  Statistics.Recounts, Statistics.Recounts.started, Statistics.Recounts.counted,
  Statistics.Recounts.uncounted
-/
import ProcessWatch.Proofs.Statistics
import Mathlib

namespace ProcessWatch

/-- Something that the counters of a store may depend on. -/
inductive Happening where
  /-- A record was added. -/
  | started (id : RecordId)
  /-- A record ended, and this is how it stands after that. -/
  | retired (record : Record)
  | reset
deriving DecidableEq, Repr

/-- What happened, in the order in which it did. -/
abbrev History := List Happening

namespace History

/-- The numbers of the records that were added. -/
def startedIds (history : History) : List RecordId :=
  history.filterMap fun
    | .started id => some id
    | _ => none

/-- The records that ended. -/
def exits (history : History) : List Record :=
  history.filterMap fun
    | .retired record => some record
    | _ => none

/-- The records that ended and were also added within this history. -/
def countedExits (history : History) : List Record :=
  history.exits.filter fun record => record.id ∈ history.startedIds

/-- How many records were added and did not end within this history. -/
def running (history : History) : Nat :=
  history.startedIds.length - history.countedExits.length

/-- The greatest number of running records at any point of a history. -/
structure IsPeak (history : History) (peak : Nat) : Prop where
  bounds : ∀ early : History, early <+: history → early.running ≤ peak
  reached : ∃ early : History, early <+: history ∧ early.running = peak

/-- What happened since the counters were last set to zero. -/
def sinceReset (history : History) : History :=
  history.rtakeWhile fun happening => happening ≠ .reset

/-- What happened since the counters were last zero, after something more may have happened. -/
def extend (since : History) : Option Happening → History
  | none => since
  | some .reset => []
  | some happening => since ++ [happening]

variable {history : History} {id : RecordId} {record : Record}

/-! ## One more happening -/

theorem startedIds_append (more : History) :
    startedIds (history ++ more) = history.startedIds ++ more.startedIds :=
  List.filterMap_append

theorem exits_append (more : History) : exits (history ++ more) = history.exits ++ more.exits :=
  List.filterMap_append

theorem startedIds_append_started :
    startedIds (history ++ [.started id]) = history.startedIds ++ [id] :=
  List.filterMap_append

theorem startedIds_append_retired :
    startedIds (history ++ [.retired record]) = history.startedIds :=
  List.filterMap_append.trans (List.append_nil _)

theorem exits_append_started : exits (history ++ [.started id]) = history.exits :=
  List.filterMap_append.trans (List.append_nil _)

theorem exits_append_retired :
    exits (history ++ [.retired record]) = history.exits ++ [record] :=
  List.filterMap_append

/-- A new number does not make an earlier exit count. -/
theorem countedExits_append_started (fresh : ∀ record ∈ history.exits, record.id ≠ id) :
    countedExits (history ++ [.started id]) = history.countedExits := by
  rw [countedExits, countedExits, exits_append_started, startedIds_append_started]
  apply List.filter_congr
  intro record member
  simp [fresh record member]

/-- The exit of a record that was added within the history counts. -/
theorem countedExits_append_counted (counted : record.id ∈ history.startedIds) :
    countedExits (history ++ [.retired record]) = history.countedExits ++ [record] := by
  rw [countedExits, exits_append_retired, startedIds_append_retired, List.filter_append,
    List.filter_singleton, decide_eq_true counted, cond_true]
  rfl

/-- The exit of a record from before does not count. -/
theorem countedExits_append_uncounted (uncounted : record.id ∉ history.startedIds) :
    countedExits (history ++ [.retired record]) = history.countedExits := by
  rw [countedExits, exits_append_retired, startedIds_append_retired, List.filter_append,
    List.filter_singleton, decide_eq_false uncounted, cond_false, List.append_nil]
  rfl

/-- As long as an added record did not end, fewer exits count than records were added. -/
theorem length_countedExits_lt (once : (history.exits.map Record.id).Nodup)
    (added : id ∈ history.startedIds) (unfinished : id ∉ history.exits.map Record.id) :
    history.countedExits.length < history.startedIds.length := by
  have isSublist : (history.countedExits.map Record.id).Sublist (history.exits.map Record.id) :=
    List.filter_sublist.map Record.id
  have distinct : (id :: history.countedExits.map Record.id).Nodup :=
    List.nodup_cons.mpr ⟨fun member => unfinished (isSublist.mem member), once.sublist isSublist⟩
  have inside : id :: history.countedExits.map Record.id ⊆ history.startedIds := by
    intro other member
    rcases List.mem_cons.mp member with rfl | ended
    · exact added
    · obtain ⟨record, counted, rfl⟩ := List.mem_map.mp ended
      exact of_decide_eq_true (List.mem_filter.mp counted).2
  have length := (distinct.subperm inside).length_le
  rwa [List.length_cons, List.length_map] at length

/-- What happens next extends what happened since the reset, or is the next reset. -/
theorem sinceReset_append (history : History) (happening : Option Happening) :
    sinceReset (history ++ happening.toList) = history.sinceReset.extend happening := by
  cases happening with
  | none => exact congrArg sinceReset (List.append_nil history)
  | some happening =>
      cases happening with
      | started id => exact List.rtakeWhile_concat_pos _ _ _ (by simp)
      | retired record => exact List.rtakeWhile_concat_pos _ _ _ (by simp)
      | reset => exact List.rtakeWhile_concat_neg _ _ _ (by simp)

namespace IsPeak

variable {peak : Nat}

/-- The peak after one more happening is the greater of the old peak and the present number. -/
theorem append (isPeak : history.IsPeak peak) (happening : Happening) :
    IsPeak (history ++ [happening]) (max peak (running (history ++ [happening]))) where
  bounds := by
    intro early isPrefix
    rcases List.prefix_concat_iff.mp isPrefix with rfl | earlier
    · exact Nat.le_max_right _ _
    · exact Nat.le_trans (isPeak.bounds early earlier) (Nat.le_max_left _ _)
  reached := by
    rcases Nat.le_total peak (running (history ++ [happening])) with higher | lower
    · exact ⟨_, List.prefix_rfl, (Nat.max_eq_right higher).symm⟩
    · obtain ⟨early, earlier, same⟩ := isPeak.reached
      refine ⟨early, earlier.trans (List.prefix_append _ _), ?_⟩
      rw [same, Nat.max_eq_left lower]

/-- A number of running records that does not rise leaves the peak where it is. -/
theorem append_of_le (isPeak : history.IsPeak peak) {happening : Happening}
    (noMore : running (history ++ [happening]) ≤ history.running) :
    IsPeak (history ++ [happening]) peak := by
  have below := Nat.le_trans noMore (isPeak.bounds history List.prefix_rfl)
  have next := isPeak.append happening
  rwa [Nat.max_eq_left below] at next

end IsPeak

end History

namespace Records

/-- How many nanoseconds each process lived. -/
def lifetimes (records : List Record) : List Nat :=
  records.map fun record => record.lifetimeNanos?.getD 0

/-- How much CPU time each process used. -/
def cpuTimes (records : List Record) : List Nat :=
  records.map fun record => record.usage.cpuTime

end Records

namespace Statistics

/-- What the counters say of exits follows from the records that ended. -/
structure CountsExits (stats : Statistics) (exits : List Record) : Prop where
  exited : stats.exited = exits.length
  totalCpuTime : stats.totalCpuTime = Word.saturate (Records.cpuTimes exits).sum
  totalLifetime : stats.totalLifetime = Word.saturate (Records.lifetimes exits).sum
  minLifetime : stats.minLifetime = (Records.lifetimes exits).min?.getD 0
  maxLifetime : stats.maxLifetime = (Records.lifetimes exits).max?.getD 0

/-- The counters are those that follow from what happened since they were last zero. -/
structure Recounts (stats : Statistics) (since : History) : Prop where
  created : stats.created = since.startedIds.length
  exits : stats.CountsExits since.countedExits
  current : stats.current + stats.exited = stats.created
  peak : since.IsPeak stats.peak

/-! ## Exits -/

/-- The extreme values of a longer list, found as the counters find them. -/
theorem getD_min?_append (values : List Nat) (last : Nat) :
    (values ++ [last]).min?.getD 0 =
      if values.length + 1 = 1 then last else min (values.min?.getD 0) last := by
  cases values with
  | nil => rfl
  | cons first values =>
      rw [if_neg (by simp), List.cons_append, List.min?_cons', List.foldl_append, List.min?_cons']
      rfl

/-- The greatest value is found in the same way. -/
theorem getD_max?_append (values : List Nat) (last : Nat) :
    (values ++ [last]).max?.getD 0 =
      if values.length + 1 = 1 then last else max (values.max?.getD 0) last := by
  cases values with
  | nil => rfl
  | cons first values =>
      rw [if_neg (by simp), List.cons_append, List.max?_cons', List.foldl_append, List.max?_cons']
      rfl

/-- Counting an exit counts the record that ended. -/
theorem CountsExits.append {stats : Statistics} {exits : List Record}
    (counts : stats.CountsExits exits) (record : Record) :
    (stats.onExit (record.lifetimeNanos?.getD 0) record.usage).CountsExits
      (exits ++ [record]) := by
  have cpuTimes : Records.cpuTimes (exits ++ [record]) =
      Records.cpuTimes exits ++ [record.usage.cpuTime] := List.map_append
  have lifetimes : Records.lifetimes (exits ++ [record]) =
      Records.lifetimes exits ++ [record.lifetimeNanos?.getD 0] := List.map_append
  have exited : stats.exited = (Records.lifetimes exits).length :=
    counts.exited.trans (List.length_map _).symm
  constructor
  case exited =>
    rw [List.length_append, ← counts.exited]
    rfl
  case totalCpuTime =>
    rw [cpuTimes, List.sum_append, List.sum_singleton, ← Word.saturate_saturate_add,
      ← counts.totalCpuTime]
    rfl
  case totalLifetime =>
    rw [lifetimes, List.sum_append, List.sum_singleton, ← Word.saturate_saturate_add,
      ← counts.totalLifetime]
    rfl
  case minLifetime =>
    rw [lifetimes, getD_min?_append, ← counts.minLifetime, ← exited]
    rfl
  case maxLifetime =>
    rw [lifetimes, getD_max?_append, ← counts.maxLifetime, ← exited]
    rfl

/-! ## One more happening -/

namespace Recounts

open History

variable {stats : Statistics} {since : History}

/-- Counters that are zero are those of an empty history. -/
theorem zero : Recounts {} [] where
  created := rfl
  exits := ⟨rfl, rfl, rfl, rfl, rfl⟩
  current := rfl
  peak :=
    { bounds := by
        intro early isPrefix
        rw [List.prefix_nil.mp isPrefix]
        exact Nat.le_refl _
      reached := ⟨[], List.prefix_rfl, rfl⟩ }

/-- The number of running processes is that of the starts without the exits that count. -/
theorem current_eq (recounts : stats.Recounts since) : stats.current = since.running := by
  have current := recounts.current
  rw [recounts.created, recounts.exits.exited] at current
  exact Nat.eq_sub_of_add_eq current

/-- A record was added with a number that is new. -/
theorem started (recounts : stats.Recounts since) {id : RecordId}
    (fresh : ∀ record ∈ since.exits, record.id ≠ id) :
    stats.onStart.Recounts (since ++ [.started id]) := by
  have exits : stats.CountsExits (countedExits (since ++ [.started id])) := by
    rw [countedExits_append_started fresh]
    exact recounts.exits
  have created : stats.onStart.created = (startedIds (since ++ [.started id])).length := by
    rw [startedIds_append_started, List.length_append, ← recounts.created]
    rfl
  have current : stats.onStart.current + stats.exited = stats.onStart.created :=
    (Nat.add_right_comm _ _ _).trans (congrArg (· + 1) recounts.current)
  have running : stats.onStart.current = running (since ++ [.started id]) := by
    rw [created, exits.exited] at current
    exact Nat.eq_sub_of_add_eq current
  constructor
  case created => exact created
  case exits => exact ⟨exits.exited, exits.totalCpuTime, exits.totalLifetime,
    exits.minLifetime, exits.maxLifetime⟩
  case current => exact current
  case peak =>
    have peak := recounts.peak.append (.started id)
    rw [← running] at peak
    exact peak

/-- A record ended that was added since the counters were last zero. -/
theorem counted (recounts : stats.Recounts since) {record : Record}
    (recent : record.id ∈ since.startedIds) (positive : 0 < stats.current) :
    (stats.onExit (record.lifetimeNanos?.getD 0) record.usage).Recounts
      (since ++ [.retired record]) := by
  have exits := countedExits_append_counted recent
  have ids : startedIds (since ++ [.retired record]) = since.startedIds :=
    startedIds_append_retired
  constructor
  case created =>
    rw [ids]
    exact recounts.created
  case exits =>
    rw [exits]
    exact recounts.exits.append record
  case current =>
    have current := recounts.current
    show stats.current - 1 + (stats.exited + 1) = stats.created
    omega
  case peak =>
    apply recounts.peak.append_of_le
    rw [running, running, ids, exits, List.length_append]
    exact Nat.sub_le_sub_left (Nat.le_add_right _ _) _

/-- A record ended that was added before the counters were last zero. -/
theorem uncounted (recounts : stats.Recounts since) {record : Record}
    (old : record.id ∉ since.startedIds) : stats.Recounts (since ++ [.retired record]) := by
  have exits := countedExits_append_uncounted old
  have ids : startedIds (since ++ [.retired record]) = since.startedIds :=
    startedIds_append_retired
  constructor
  case created =>
    rw [ids]
    exact recounts.created
  case exits =>
    rw [exits]
    exact recounts.exits
  case current => exact recounts.current
  case peak =>
    apply recounts.peak.append_of_le
    rw [running, running, ids, exits]

end Recounts

end Statistics

end ProcessWatch
