/-
Module: ProcessWatch.Proofs.Roster.Basic
Purpose: A monitor as its callers may picture it: a clock, one list of records in the order in which
  they came, and counters.
Trusted boundary: none
Main exports: Roster, Roster.create, Roster.start, Roster.exit, Roster.perform, Roster.run,
  Roster.exit_split, Roster.undergo, Roster.answers, Roster.after
-/
import ProcessWatch.Proofs.Monitor.Change
import ProcessWatch.Proofs.Records

namespace ProcessWatch

/-- A clock, one list of records, and counters. -/
structure Roster where
  clock : Clock
  capacity : Nat
  /-- All records, in the order in which they came. -/
  records : List Record := []
  /-- The number of the next record. -/
  nextId : RecordId := 1
  /-- The number of the first record since the last reset of the counters. -/
  firstCounted : RecordId := 1
  stats : Statistics := {}
  monitoring : Bool := true
  filter : Filter := {}
  origin : Timestamp

namespace Roster

/-- A roster without records. -/
def create (options : Store.Options) (time : Timestamp) : Roster where
  clock := ⟨time⟩
  capacity := max options.capacity 1
  monitoring := options.monitoring
  filter := options.filter
  origin := time

/-! ## Changing -/

/-- Add a running record with the next number behind all others. -/
def start (roster : Roster) (pid parent : Pid) (name : CommandName) : Option RecordId × Roster :=
  if roster.monitoring then
    let record := Record.started roster.nextId pid parent name roster.clock.now
    (some record.id,
      { roster with
        records := Records.push roster.capacity roster.records record
        nextId := roster.nextId + 1
        stats := roster.stats.onStart })
  else
    (none, roster)

/-- The last running record about a process number, as it stands after an exit. -/
def ending? (roster : Roster) (pid : Pid) (code : ExitCode) (usage : Usage) : Option Record :=
  if roster.monitoring then
    (Records.lastRunning? roster.records pid).map fun record =>
      record.ended roster.clock.now code usage
  else
    none

/-- The counters after the end of a record, which counts if it came after the last reset. -/
def countExit (roster : Roster) (record : Record) (usage : Usage) : Statistics :=
  if roster.firstCounted ≤ record.id then
    roster.stats.onExit (record.lifetimeNanos?.getD 0) usage
  else
    roster.stats

/-- End the last running record about a process number, if there is one. -/
def exit (roster : Roster) (pid : Pid) (code : ExitCode) (usage : Usage) : Roster :=
  match roster.ending? pid code usage with
  | none => roster
  | some record =>
      { roster with
        records := Records.changeLastRunning pid
          (fun record => record.ended roster.clock.now code usage) roster.records
        stats := roster.countExit record usage }

/-- Drop every record. -/
def clear (roster : Roster) : Roster := { roster with records := [] }

/-- Set the counters to zero.  What came before counts no longer. -/
def resetStatistics (roster : Roster) : Roster :=
  { roster with stats := {}, firstCounted := roster.nextId }

/-- Let the roster record or not. -/
def setMonitoring (roster : Roster) (monitoring : Bool) : Roster :=
  { roster with monitoring := monitoring }

/-! ## Asking -/

/-- The first `limit` of the given records that pass the filter. -/
def listing (roster : Roster) (limit : Nat) (candidates : List Record) : Listing :=
  let matching := candidates.filter fun record => roster.filter.accepts record.subject
  { records := matching.take limit
    truncated := limit < matching.length
    totalMatched := matching.length }

/-- The records of processes that started within an interval, earlier starts first. -/
def startedWithin (roster : Roster) (range : Interval Timestamp) : List Record :=
  Records.inStartOrder (roster.records.filter fun record => range.contains record.startedAt)

/-- The counters as they stand. -/
def snapshot (roster : Roster) : Snapshot where
  stats := roster.stats
  records := roster.records.length
  capacity := roster.capacity
  monitoring := roster.monitoring
  uptime := ⟨roster.clock.now - roster.origin⟩

/-- Whether the roster records, and how full it is. -/
def status (roster : Roster) : ControlStatus where
  monitoring := roster.monitoring
  records := roster.records.length
  capacity := roster.capacity

/-! ## Calls -/

/-- Answer a call. -/
def perform (roster : Roster) : Monitor.Call → Monitor.Answer × Roster
  | .start pid parent name =>
      let (id, next) := roster.start pid parent (CommandName.ofString name)
      (.started id, next)
  | .exit pid code usage => (.done, roster.exit pid code usage)
  | .deliver (.start pid parent name) =>
      (.done, (roster.start pid parent (CommandName.ofString name.text)).2)
  | .deliver (.exit pid code usage) => (.done, roster.exit pid code usage)
  | .moveClock move =>
      let clock := roster.clock.move move
      (.time clock.now, { roster with clock := clock })
  | .list limit => (.listing (roster.listing limit roster.records), roster)
  | .listRecent count =>
      (.listing (roster.listing count (roster.records.drop (roster.records.length - count))), roster)
  | .listStartedWithin range limit =>
      (.listing (roster.listing limit (roster.startedWithin range)), roster)
  | .lookup pid => (.record (Records.lastRunning? roster.records pid), roster)
  | .isEmpty => (.flag roster.records.isEmpty, roster)
  | .size => (.count roster.records.length, roster)
  | .snapshot => (.snapshot roster.snapshot, roster)
  | .status => (.status roster.status, roster)
  | .isConsistent => (.flag true, roster)
  | .setMonitoring monitoring => (.done, roster.setMonitoring monitoring)
  | .clear => (.done, roster.clear)
  | .resetStatistics => (.done, roster.resetStatistics)
  | .shutdown => (.done, roster.clear)
  | .obey .start => (.done, roster.setMonitoring true)
  | .obey .stop => (.done, roster.setMonitoring false)
  | .obey .clear => (.done, roster.clear)
  | .obey .resetStatistics => (.done, roster.resetStatistics)
  | .askFilter call =>
      let outcome := roster.filter.perform call
      (.filter outcome.answer, { roster with filter := outcome.filter })

/-- Answer some calls one after the other. -/
def run (roster : Roster) : List Monitor.Call → List Monitor.Answer × Roster
  | [] => ([], roster)
  | call :: calls =>
      let (answer, next) := roster.perform call
      let (answers, final) := next.run calls
      (answer :: answers, final)

/-! ## Starts and exits -/

section Recording

variable {roster : Roster} {pid : Pid} {record : Record} (parent : Pid) (name : CommandName)
  (code : ExitCode) (usage : Usage)

/-- A start changes nothing as long as nothing is recorded. -/
theorem start_of_paused (paused : roster.monitoring = false) :
    roster.start pid parent name = (none, roster) := by
  rw [start, if_neg (by simp [paused])]

/-- A start that is recorded adds a running record, and the first one goes if there is no room. -/
theorem start_of_recording (recording : roster.monitoring = true) :
    roster.start pid parent name =
      (some roster.nextId,
        { roster with
          records := Records.push roster.capacity roster.records
            (Record.started roster.nextId pid parent name roster.clock.now)
          nextId := roster.nextId + 1
          stats := roster.stats.onStart }) := by
  rw [start, if_pos recording]
  rfl

/-- An exit changes nothing as long as nothing is recorded. -/
theorem exit_of_paused (paused : roster.monitoring = false) :
    roster.exit pid code usage = roster := by
  have nothing : roster.ending? pid code usage = none := by
    rw [ending?, if_neg (by simp [paused])]
  rw [exit, nothing]

/-- An exit changes nothing if no running record is about its process number. -/
theorem exit_of_untracked (untracked : Records.lastRunning? roster.records pid = none) :
    roster.exit pid code usage = roster := by
  have nothing : roster.ending? pid code usage = none := by
    rw [ending?, untracked]
    exact ite_self none
  rw [exit, nothing]

/-- An exit that is recorded ends the last running record about its process number, and counts if that
record counts. -/
theorem exit_of_tracked (recording : roster.monitoring = true)
    (last : Records.lastRunning? roster.records pid = some record) :
    roster.exit pid code usage =
      { roster with
        records := Records.changeLastRunning pid
          (fun record => record.ended roster.clock.now code usage) roster.records
        stats := roster.countExit (record.ended roster.clock.now code usage) usage } := by
  have ending : roster.ending? pid code usage =
      some (record.ended roster.clock.now code usage) := by
    rw [ending?, if_pos recording, last]
    rfl
  rw [exit, ending]

/-- An exit ends the last running record about its process number, or changes nothing. -/
theorem exit_cases (roster : Roster) (pid : Pid) (code : ExitCode) (usage : Usage) :
    (roster.ending? pid code usage = none ∧ roster.exit pid code usage = roster) ∨
      ∃ record, roster.monitoring = true ∧
        Records.lastRunning? roster.records pid = some record ∧
        roster.ending? pid code usage = some (record.ended roster.clock.now code usage) := by
  cases recording : roster.monitoring with
  | false =>
      left
      exact ⟨by rw [ending?, if_neg (by simp [recording])], exit_of_paused code usage recording⟩
  | true =>
      cases last : Records.lastRunning? roster.records pid with
      | none =>
          left
          exact ⟨by rw [ending?, last, if_pos recording, Option.map_none],
            exit_of_untracked code usage last⟩
      | some record =>
          right
          exact ⟨record, rfl, rfl, by rw [ending?, last, if_pos recording, Option.map_some]⟩

/-- An exit changes nothing, or it puts the last running record as it has ended in its place. -/
theorem exit_split (roster : Roster) (pid : Pid) (code : ExitCode) (usage : Usage) :
    (roster.ending? pid code usage = none ∧ roster.exit pid code usage = roster) ∨
      ∃ before running after, roster.records = before ++ running :: after ∧
        Records.lastRunning? roster.records pid = some running ∧
        roster.ending? pid code usage = some (running.ended roster.clock.now code usage) ∧
        (roster.exit pid code usage).records =
          before ++ running.ended roster.clock.now code usage :: after := by
  rcases roster.exit_cases pid code usage with nothing | ⟨running, recording, last, ending⟩
  · exact Or.inl nothing
  · obtain ⟨before, after, split, runs, noneAfter⟩ := Records.lastRunning?_eq_some_iff.mp last
    refine Or.inr ⟨before, running, after, split, last, ending, ?_⟩
    rw [exit_of_tracked code usage recording last, split]
    exact Records.changeLastRunning_split _ runs noneAfter

end Recording

/-! ## Changes -/

/-- Make a change. -/
def undergo (roster : Roster) : Monitor.Change → Roster
  | .nothing => roster
  | .start pid parent name => (roster.start pid parent name).2
  | .exit pid code usage => roster.exit pid code usage
  | .moveClock move => { roster with clock := roster.clock.move move }
  | .setMonitoring monitoring => roster.setMonitoring monitoring
  | .clear => roster.clear
  | .resetStatistics => roster.resetStatistics
  | .askFilter call => { roster with filter := (roster.filter.perform call).filter }

/-- After a call a roster has undergone the change of the call. -/
theorem perform_snd (roster : Roster) (call : Monitor.Call) :
    (roster.perform call).2 = roster.undergo call.change := by
  cases call with
  | deliver event => cases event <;> rfl
  | obey order => cases order <;> rfl
  | _ => rfl

/-- The answers to some calls, made one after the other. -/
def answers (roster : Roster) (calls : List Monitor.Call) : List Monitor.Answer :=
  (roster.run calls).1

/-- The roster after some calls. -/
def after (roster : Roster) (calls : List Monitor.Call) : Roster := (roster.run calls).2

@[simp] theorem answers_nil (roster : Roster) : roster.answers [] = [] := rfl

@[simp] theorem after_nil (roster : Roster) : roster.after [] = roster := rfl

@[simp] theorem answers_cons (roster : Roster) (call : Monitor.Call)
    (calls : List Monitor.Call) :
    roster.answers (call :: calls) =
      (roster.perform call).1 :: (roster.undergo call.change).answers calls := by
  rw [← perform_snd]
  rfl

@[simp] theorem after_cons (roster : Roster) (call : Monitor.Call) (calls : List Monitor.Call) :
    roster.after (call :: calls) = (roster.undergo call.change).after calls := by
  rw [← perform_snd]
  rfl

/-! ## What no change touches -/

@[simp] theorem clock_start (roster : Roster) (pid parent : Pid) (name : CommandName) :
    (roster.start pid parent name).2.clock = roster.clock := by
  rw [start]
  split <;> rfl

@[simp] theorem clock_exit (roster : Roster) (pid : Pid) (code : ExitCode) (usage : Usage) :
    (roster.exit pid code usage).clock = roster.clock := by
  rw [exit]
  split <;> rfl

@[simp] theorem capacity_start (roster : Roster) (pid parent : Pid) (name : CommandName) :
    (roster.start pid parent name).2.capacity = roster.capacity := by
  rw [start]
  split <;> rfl

@[simp] theorem capacity_exit (roster : Roster) (pid : Pid) (code : ExitCode) (usage : Usage) :
    (roster.exit pid code usage).capacity = roster.capacity := by
  rw [exit]
  split <;> rfl

@[simp] theorem origin_start (roster : Roster) (pid parent : Pid) (name : CommandName) :
    (roster.start pid parent name).2.origin = roster.origin := by
  rw [start]
  split <;> rfl

@[simp] theorem origin_exit (roster : Roster) (pid : Pid) (code : ExitCode) (usage : Usage) :
    (roster.exit pid code usage).origin = roster.origin := by
  rw [exit]
  split <;> rfl

theorem capacity_undergo (roster : Roster) (change : Monitor.Change) :
    (roster.undergo change).capacity = roster.capacity := by
  cases change with
  | start pid parent name => exact roster.capacity_start pid parent name
  | exit pid code usage => exact roster.capacity_exit pid code usage
  | _ => rfl

/-- No call changes how many records there may be. -/
theorem capacity_after (roster : Roster) (calls : List Monitor.Call) :
    (roster.after calls).capacity = roster.capacity := by
  induction calls generalizing roster with
  | nil => rfl
  | cons call calls inductionHypothesis =>
      rw [after_cons, inductionHypothesis, capacity_undergo]

theorem origin_undergo (roster : Roster) (change : Monitor.Change) :
    (roster.undergo change).origin = roster.origin := by
  cases change with
  | start pid parent name => exact roster.origin_start pid parent name
  | exit pid code usage => exact roster.origin_exit pid code usage
  | _ => rfl

/-- No call changes when it all began. -/
theorem origin_after (roster : Roster) (calls : List Monitor.Call) :
    (roster.after calls).origin = roster.origin := by
  induction calls generalizing roster with
  | nil => rfl
  | cons call calls inductionHypothesis =>
      rw [after_cons, inductionHypothesis, origin_undergo]

/-! ## Numbers -/

/-- A number is used up by every start that is recorded, and by no other. -/
theorem nextId_start (roster : Roster) (pid parent : Pid) (name : CommandName) :
    (roster.start pid parent name).2.nextId =
      if roster.monitoring then roster.nextId + 1 else roster.nextId := by
  rw [start]
  split <;> rfl

@[simp] theorem nextId_exit (roster : Roster) (pid : Pid) (code : ExitCode) (usage : Usage) :
    (roster.exit pid code usage).nextId = roster.nextId := by
  rw [exit]
  split <;> rfl

/-- Only a start takes a number, and it takes one. -/
theorem nextId_undergo_le (roster : Roster) (call : Monitor.Call) :
    (roster.undergo call.change).nextId ≤ roster.nextId + if call.isStart then 1 else 0 := by
  have started : ∀ pid parent name,
      (roster.start pid parent name).2.nextId ≤ roster.nextId + 1 := by
    intro pid parent name
    rw [nextId_start]
    split
    · exact Nat.le_refl _
    · exact Nat.le_succ _
  cases call with
  | start pid parent name => exact started _ _ _
  | deliver event =>
      cases event with
      | start pid parent name => exact started _ _ _
      | exit pid code usage => exact Nat.le_of_eq (nextId_exit _ _ _ _)
  | exit pid code usage => exact Nat.le_of_eq (nextId_exit _ _ _ _)
  | obey order => cases order <;> exact Nat.le_refl _
  | _ => exact Nat.le_refl _

end Roster

end ProcessWatch
