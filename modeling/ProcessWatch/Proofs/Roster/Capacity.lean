/-
Module: ProcessWatch.Proofs.Roster.Capacity
Purpose: A store that may hold fewer records only forgets: it knows the last records of one that may
  hold more, and knows them as well.
Trusted boundary: calls meet enough memory, for which Proofs.Roster.Memory gives a condition
Main exports: Roster.Narrower, Roster.Narrower.undergo, Roster.Narrower.after,
  Monitor.narrower_after
-/
import ProcessWatch.Proofs.Roster.Simulation
import ProcessWatch.Proofs.Statistics

namespace ProcessWatch

namespace Roster

/-- Two rosters that differ by how much they may hold: the first one has the last records of the
second one, and may have missed the ends of those that it dropped. -/
structure Narrower (narrow wide : Roster) : Prop where
  clock : narrow.clock = wide.clock
  nextId : narrow.nextId = wide.nextId
  firstCounted : narrow.firstCounted = wide.firstCounted
  monitoring : narrow.monitoring = wide.monitoring
  positive : 0 < narrow.capacity
  capacity : narrow.capacity ≤ wide.capacity
  room : wide.records.length ≤ wide.capacity
  records : narrow.records = wide.records.rtake narrow.capacity
  stats : narrow.stats.MissesExits wide.stats

namespace Narrower

variable {narrow wide : Roster}

/-- At the start neither knows anything, and so the one with less room knows no less. -/
theorem create {few many : Store.Options} (positive : 1 ≤ few.capacity)
    (capacity : few.capacity ≤ many.capacity) (monitoring : few.monitoring = many.monitoring)
    (time : Timestamp) :
    (Roster.create few time).Narrower (Roster.create many time) where
  clock := rfl
  nextId := rfl
  firstCounted := rfl
  monitoring := monitoring
  positive := Nat.lt_of_lt_of_le positive (Nat.le_max_left _ _)
  capacity := by
    show max few.capacity 1 ≤ max many.capacity 1
    omega
  room := Nat.zero_le _
  records := (List.rtake_nil _).symm
  stats := Statistics.MissesExits.zero

/-- The one with less room keeps to it. -/
theorem narrow_room (narrower : narrow.Narrower wide) :
    narrow.records.length ≤ narrow.capacity := by
  rw [narrower.records]
  exact Records.length_rtake_le _ _

/-- The last records stay the last ones when both lists get one more. -/
theorem push (narrower : narrow.Narrower wide) (record : Record) :
    Records.push narrow.capacity narrow.records record =
      (Records.push wide.capacity wide.records record).rtake narrow.capacity := by
  have widePositive := Nat.lt_of_lt_of_le narrower.positive narrower.capacity
  calc Records.push narrow.capacity narrow.records record
    _ = (narrow.records ++ [record]).rtake narrow.capacity :=
        Records.push_eq_rtake narrower.positive narrower.narrow_room record
    _ = (wide.records ++ [record]).rtake narrow.capacity := by
        rw [narrower.records, Records.rtake_append_singleton_rtake]
    _ = ((wide.records ++ [record]).rtake wide.capacity).rtake narrow.capacity :=
        (Records.rtake_rtake narrower.capacity _).symm
    _ = (Records.push wide.capacity wide.records record).rtake narrow.capacity := by
        rw [Records.push_eq_rtake widePositive narrower.room]

/-- A start gets the same number from both, and the one with less room may forget a record for it. -/
theorem start (narrower : narrow.Narrower wide) (pid parent : Pid) (name : CommandName) :
    (narrow.start pid parent name).1 = (wide.start pid parent name).1 ∧
      (narrow.start pid parent name).2.Narrower (wide.start pid parent name).2 := by
  cases recording : wide.monitoring with
  | false =>
      rw [start_of_paused parent name recording,
        start_of_paused parent name (narrower.monitoring.trans recording)]
      exact ⟨rfl, narrower⟩
  | true =>
      rw [start_of_recording parent name recording,
        start_of_recording parent name (narrower.monitoring.trans recording)]
      refine ⟨congrArg some narrower.nextId, ?_⟩
      have widePositive := Nat.lt_of_lt_of_le narrower.positive narrower.capacity
      let record := Record.started wide.nextId pid parent name wide.clock.now
      have same : Record.started narrow.nextId pid parent name narrow.clock.now = record := by
        rw [narrower.nextId, narrower.clock]
      exact
        { narrower with
          nextId := congrArg (· + 1) narrower.nextId
          room := by
            show (Records.push wide.capacity wide.records record).length ≤ wide.capacity
            rw [Records.push_eq_rtake widePositive narrower.room]
            exact Records.length_rtake_le _ _
          records := by
            refine Eq.trans ?_ (narrower.push record)
            exact congrArg (Records.push narrow.capacity narrow.records) same
          stats := narrower.stats.onStart }

/-! ## Exits -/

/-- The records that only the second roster still has. -/
theorem exists_forgotten (narrower : narrow.Narrower wide) :
    ∃ forgotten, wide.records = forgotten ++ narrow.records := by
  obtain ⟨forgotten, split⟩ := (Records.eq_rtake_iff.mp narrower.records).1
  exact ⟨forgotten, split.symm⟩

/-- Changes that keep the number of records keep the relation, if they change the common part alike
and the first roster counts no more exits than the second one. -/
theorem change (narrower : narrow.Narrower wide) {forgotten kept : List Record}
    {few many : Statistics}
    (forgottenLength : forgotten.length + narrow.records.length = wide.records.length)
    (keptLength : kept.length = narrow.records.length) (misses : few.MissesExits many) :
    ({ narrow with records := kept, stats := few } : Roster).Narrower
      { wide with records := forgotten ++ kept, stats := many } :=
  { narrower with
    room := by
      have room := narrower.room
      show (forgotten ++ kept).length ≤ wide.capacity
      rw [List.length_append]
      omega
    records := by
      have length := (Records.eq_rtake_iff.mp narrower.records).2
      refine Records.eq_rtake_iff.mpr ⟨List.suffix_append _ _, ?_⟩
      show kept.length = min narrow.capacity (forgotten ++ kept).length
      rw [List.length_append]
      omega
    stats := misses }

/-- An exit that both count keeps the counters in their order. -/
theorem countExit (narrower : narrow.Narrower wide) (record : Record) (usage : Usage) :
    (narrow.countExit record usage).MissesExits (wide.countExit record usage) := by
  rw [Roster.countExit, Roster.countExit, narrower.firstCounted]
  split
  · exact narrower.stats.onExit _ usage
  · exact narrower.stats

/-- An exit that only the one with more room knows of does so, too. -/
theorem countExit_right (narrower : narrow.Narrower wide) (record : Record) (usage : Usage) :
    narrow.stats.MissesExits (wide.countExit record usage) := by
  rw [Roster.countExit]
  split
  · exact narrower.stats.onExit_right _ usage
  · exact narrower.stats

/-- An exit ends the same record in both, or ends one that the first roster has dropped, or ends
none. -/
theorem exit (narrower : narrow.Narrower wide) (pid : Pid) (code : ExitCode) (usage : Usage) :
    (narrow.exit pid code usage).Narrower (wide.exit pid code usage) := by
  obtain ⟨forgotten, split⟩ := narrower.exists_forgotten
  have length : forgotten.length + narrow.records.length = wide.records.length := by
    rw [split, List.length_append]
  cases recording : wide.monitoring with
  | false =>
      rw [exit_of_paused code usage recording,
        exit_of_paused code usage (narrower.monitoring.trans recording)]
      exact narrower
  | true =>
      have narrowRecording := narrower.monitoring.trans recording
      let ending := fun record : Record => record.ended wide.clock.now code usage
      cases lastNarrow : Records.lastRunning? narrow.records pid with
      | some record =>
          have lastWide : Records.lastRunning? wide.records pid = some record := by
            rw [split, Records.lastRunning?_append, lastNarrow]
            rfl
          have narrowExit : narrow.exit pid code usage =
              { narrow with
                records := Records.changeLastRunning pid ending narrow.records
                stats := narrow.countExit (ending record) usage } := by
            rw [exit_of_tracked code usage narrowRecording lastNarrow, narrower.clock]
          rw [narrowExit, exit_of_tracked code usage recording lastWide, split,
            Records.changeLastRunning_append_of_some _ lastNarrow]
          exact narrower.change length (Records.length_changeLastRunning _ _ _)
            (narrower.countExit _ usage)
      | none =>
          rw [exit_of_untracked code usage lastNarrow]
          cases lastWide : Records.lastRunning? wide.records pid with
          | none =>
              rw [exit_of_untracked code usage lastWide]
              exact narrower
          | some record =>
              rw [exit_of_tracked code usage recording lastWide, split,
                Records.changeLastRunning_append_of_none _ lastNarrow]
              exact narrower.change
                ((congrArg (· + narrow.records.length)
                  (Records.length_changeLastRunning pid ending forgotten)).trans length)
                rfl (narrower.countExit_right _ usage)

/-! ## Runs -/

/-- Clearing makes both know nothing. -/
theorem clear (narrower : narrow.Narrower wide) : narrow.clear.Narrower wide.clear :=
  { narrower with
    room := Nat.zero_le _
    records := (List.rtake_nil _).symm }

/-- Resetting the counters makes them the same. -/
theorem resetStatistics (narrower : narrow.Narrower wide) :
    narrow.resetStatistics.Narrower wide.resetStatistics :=
  { narrower with
    firstCounted := narrower.nextId
    stats := Statistics.MissesExits.zero }

/-- No change lets the one with less room know more. -/
theorem undergo (narrower : narrow.Narrower wide) (change : Monitor.Change) :
    (narrow.undergo change).Narrower (wide.undergo change) := by
  cases change with
  | nothing => exact narrower
  | start pid parent name => exact (narrower.start pid parent name).2
  | exit pid code usage => exact narrower.exit pid code usage
  | moveClock move =>
      exact { narrower with clock := congrArg (Clock.move · move) narrower.clock }
  | setMonitoring monitoring => exact { narrower with monitoring := rfl }
  | clear => exact narrower.clear
  | resetStatistics => exact narrower.resetStatistics
  | askFilter call => exact { narrower with }

theorem after (narrower : narrow.Narrower wide) (calls : List Monitor.Call) :
    (narrow.after calls).Narrower (wide.after calls) := by
  induction calls generalizing narrow wide with
  | nil => exact narrower
  | cons call calls inductionHypothesis =>
      rw [after_cons, after_cons]
      exact inductionHypothesis (narrower.undergo call.change)

/-- Monitors that such rosters picture give the same numbers to the records of all starts. -/
theorem startedIds {few many : Monitor} (narrower : narrow.Narrower wide)
    (picturesNarrow : narrow.Pictures few) (picturesWide : wide.Pictures many)
    (calls : List Monitor.Call) : few.startedIds calls = many.startedIds calls := by
  induction calls generalizing narrow wide few many with
  | nil => rfl
  | cons call calls inductionHypothesis =>
      have head : (few.perform call).answer.started? = (many.perform call).answer.started? := by
        rw [Monitor.started?_answer, Monitor.started?_answer]
        cases call with
        | start pid parent name =>
            have nowFew := congrArg Clock.now picturesNarrow.clock
            have nowMany := congrArg Clock.now picturesWide.clock
            have one := picturesNarrow.models.commitStart_id? pid parent (CommandName.ofString name)
            have two := picturesWide.models.commitStart_id? pid parent (CommandName.ofString name)
            rw [nowFew] at one
            rw [nowMany] at two
            show some _ = some _
            rw [one, two, (narrower.start pid parent _).1]
        | _ => rfl
      have tail := inductionHypothesis (narrower.undergo call.change)
        (picturesNarrow.undergo call.change) (picturesWide.undergo call.change)
      rw [Monitor.startedIds, Monitor.startedIds] at tail ⊢
      rw [Monitor.answers_cons, Monitor.answers_cons, List.filterMap_cons, List.filterMap_cons,
        head, tail]

end Narrower

end Roster

/-! ## Two monitors from their start -/

namespace Monitor

/-- A monitor that may hold fewer records has the last records of one that may hold more, has given
the same numbers, and has counted the same starts but perhaps fewer exits. -/
theorem narrower_after (few many : Store.Options) (time : Timestamp) (calls : List Call)
    (positive : 1 ≤ few.capacity) (capacity : few.capacity ≤ many.capacity)
    (monitoring : few.monitoring = many.monitoring) :
    let narrow := ((create few time).1.after calls).store
    let wide := ((create many time).1.after calls).store
    narrow.index.records = wide.index.records.rtake (min few.capacity wide.size) ∧
      (create few time).1.startedIds calls = (create many time).1.startedIds calls ∧
      narrow.stats.created = wide.stats.created ∧
      narrow.stats.exited ≤ wide.stats.exited ∧
      narrow.stats.totalCpuTime ≤ wide.stats.totalCpuTime ∧
      narrow.stats.totalLifetime ≤ wide.stats.totalLifetime ∧
      wide.stats.current ≤ narrow.stats.current ∧
      wide.stats.peak ≤ narrow.stats.peak := by
  intro narrow wide
  have start := Roster.Narrower.create positive capacity monitoring time
  have picturesFew := Roster.Pictures.create few time
  have picturesMany := Roster.Pictures.create many time
  have narrower := start.after calls
  have modelsFew := (picturesFew.after calls).models
  have modelsMany := (picturesMany.after calls).models
  have misses := narrower.stats
  rw [← modelsFew.stats, ← modelsMany.stats] at misses
  refine ⟨?_, start.startedIds picturesFew picturesMany calls, misses.created, misses.exited,
    misses.totalCpuTime, misses.totalLifetime, misses.current, misses.peak⟩
  have limit : ((Roster.create few time).after calls).capacity = few.capacity :=
    (Roster.capacity_after _ calls).trans (Nat.max_eq_left positive)
  have records := narrower.records
  rw [limit, ← modelsFew.records, ← modelsMany.records] at records
  rw [modelsMany.size_eq, ← modelsMany.records]
  exact records.trans (Records.rtake_min_length _ _).symm

/-- The record of process 7 is gone from the smaller store when the process ends. -/
theorem narrower_after_of_one :
    let calls : List Call := [.start 7 1 "sh", .start 8 1 "sh", .exit 7 0 {}]
    let narrow := ((create { capacity := 1 } 5).1.after calls).store
    let wide := ((create { capacity := 2 } 5).1.after calls).store
    narrow.index.records = wide.index.records.rtake 1 ∧
      narrow.stats.exited = 0 ∧ wide.stats.exited = 1 :=
  ⟨(narrower_after { capacity := 1 } { capacity := 2 } 5 _ (by decide) (by decide) rfl).1,
    rfl, rfl⟩

end Monitor

end ProcessWatch
