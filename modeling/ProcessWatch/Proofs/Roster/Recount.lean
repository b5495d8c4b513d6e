/-
Module: ProcessWatch.Proofs.Roster.Recount
Purpose: The counters of a store are at every moment those that a look at its whole history gives, and
  that history is what can be seen from outside: what is held before and after each call.
Trusted boundary: calls meet enough memory, for which Proofs.Roster.Memory gives a condition
Main exports: Monitor.Adds, Roster.Pictures.happening?_eq_started_iff,
  Roster.Pictures.happening?_eq_retired_iff, Monitor.statistics_recount

What a call makes happen is defined by what the store reports of it.  Here it is compared with the
records themselves: a number that was not held and then is, and a record that ran and then has ended.
-/
import ProcessWatch.Proofs.Roster.Logging

namespace ProcessWatch

/-! ## What happens, seen from outside -/

/-- A record with that number is held after the call, and none was before it. -/
def Monitor.Adds (monitor : Monitor) (call : Monitor.Call) (id : RecordId) : Prop :=
  id ∈ (monitor.perform call).monitor.held.map Record.id ∧ id ∉ monitor.held.map Record.id

/-- Calls that make the same change end the same records. -/
theorem Monitor.retires_congr {monitor : Monitor} {call other : Monitor.Call}
    (same : call.change = other.change) (record : Record) :
    monitor.Retires call record ↔ monitor.Retires other record := by
  rw [Retires, Retires, perform_monitor, perform_monitor, same]

namespace Roster

open Monitor (Call Change)

variable {roster : Roster} {monitor : Monitor} {change : Change} {record : Record}

theorem happening?_exit_eq_retired_iff {pid : Pid} {code : ExitCode} {usage : Usage} :
    roster.happening? (.exit pid code usage) = some (.retired record) ↔
      roster.ending? pid code usage = some record := by
  simp [happening?]

/-- Only an exit ends a record. -/
theorem exists_exit_of_retired (retired : roster.happening? change = some (.retired record)) :
    ∃ pid code usage, change = .exit pid code usage := by
  cases change with
  | exit pid code usage => exact ⟨pid, code, usage, rfl⟩
  | start pid parent name =>
      obtain ⟨id, -, same⟩ := Option.map_eq_some_iff.mp retired
      cases same
  | _ => cases retired

/-- After a start that is recorded the record with the next number is held. -/
theorem mem_ids_start_of_recording (recording : roster.monitoring = true) (pid parent : Pid)
    (name : CommandName) :
    roster.nextId ∈ (roster.start pid parent name).2.records.map Record.id := by
  rw [start_of_recording parent name recording]
  refine List.mem_map.mpr ⟨Record.started roster.nextId pid parent name roster.clock.now, ?_, rfl⟩
  exact List.mem_append_right _ (List.mem_singleton_self _)

namespace Numbered

/-- A change takes up a number exactly if that is held after it and was not before. -/
theorem happening?_eq_started_iff (numbered : roster.Numbered) {id : RecordId} :
    roster.happening? change = some (.started id) ↔
      id ∈ (roster.undergo change).records.map Record.id ∧ id ∉ roster.records.map Record.id := by
  constructor
  · intro started
    obtain rfl := eq_nextId_of_started started
    refine ⟨?_, numbered.fresh⟩
    cases change with
    | start pid parent name =>
        cases recording : roster.monitoring with
        | false =>
            rw [happening?, start_of_paused parent name recording] at started
            cases started
        | true => exact mem_ids_start_of_recording recording pid parent name
    | exit pid code usage =>
        obtain ⟨ended, -, same⟩ := Option.map_eq_some_iff.mp started
        cases same
    | _ => cases started
  · rintro ⟨after, notBefore⟩
    obtain ⟨new, member, rfl⟩ := List.mem_map.mp after
    cases arises_of_mem_undergo member with
    | kept held => exact absurd (List.mem_map_of_mem held) notBefore
    | ended last code usage =>
        have held := (Records.runsAs_of_lastRunning? last).1
        exact absurd (List.mem_map_of_mem (f := Record.id) held) notBefore
    | started pid parent name =>
        cases recording : roster.monitoring with
        | false =>
            rw [undergo, start_of_paused parent name recording] at after
            exact absurd after notBefore
        | true =>
            rw [happening?, start_of_recording parent name recording]
            rfl

end Numbered

namespace Pictures

/-- A call takes up a number exactly if it adds a record with that number. -/
theorem happening?_eq_started_iff (pictures : roster.Pictures monitor) (call : Call)
    (id : RecordId) : monitor.happening? call = some (.started id) ↔ monitor.Adds call id := by
  rw [pictures.happening?, pictures.models.numbered.happening?_eq_started_iff, Monitor.Adds,
    (pictures.perform call).held, pictures.held]

/-- What has ended by a call, and ran before it, has ended by an exit. -/
theorem exists_exit_of_retires (pictures : roster.Pictures monitor) {call : Call}
    (retires : monitor.Retires call record) :
    ∃ pid code usage, call.change = .exit pid code usage := by
  have notKept := pictures.not_mem_records_of_retires retires
  obtain ⟨member, exited, -⟩ := retires
  rw [(pictures.perform call).held] at member
  generalize call.change = change at member ⊢
  cases arises_of_mem_undergo member with
  | kept kept => exact absurd kept notKept
  | started pid parent name => cases exited
  | ended last code usage => exact ⟨_, code, usage, rfl⟩

/-- A record is reported to end exactly if it ran before the call and has ended after it. -/
theorem happening?_eq_retired_iff (pictures : roster.Pictures monitor) (call : Call)
    (record : Record) :
    monitor.happening? call = some (.retired record) ↔ monitor.Retires call record := by
  have ofExit : ∀ {pid code usage}, call.change = .exit pid code usage →
      (monitor.happening? call = some (.retired record) ↔ monitor.Retires call record) := by
    intro pid code usage change
    have same : call.change = (Call.exit pid code usage).change := change
    rw [pictures.happening?, Monitor.retires_congr same, pictures.retires_iff, change,
      happening?_exit_eq_retired_iff]
  constructor
  · intro retired
    have change := exists_exit_of_retired (pictures.happening? call ▸ retired)
    obtain ⟨pid, code, usage, change⟩ := change
    exact (ofExit change).mp retired
  · intro retires
    obtain ⟨pid, code, usage, change⟩ := pictures.exists_exit_of_retires retires
    exact (ofExit change).mpr retires

end Pictures

end Roster

/-! ## A monitor from its start -/

namespace Monitor

/-- At every moment the counters are those that follow from what happened since they were last zero.
What happens is what is seen of the records: a start that returns a number adds the record with it, and
what ends is what ran before.  A record that ends has the time and the usage of the exit, an exit that
counts finds a process counted as running, and a call that makes nothing happen, or only ends a record
from before, leaves the counters alone. -/
theorem statistics_recount (options : Store.Options) (time : Timestamp) (calls : List Call) :
    let monitor := (create options time).1.after calls
    let since := ((create options time).1.history calls).sinceReset
    monitor.store.stats.Recounts since ∧
      (∀ pid parent name id,
        (monitor.perform (.start pid parent name)).answer = .started (some id) ↔
          monitor.happening? (.start pid parent name) = some (.started id)) ∧
      (∀ call id, monitor.happening? call = some (.started id) ↔ monitor.Adds call id) ∧
      (∀ call record,
        monitor.happening? call = some (.retired record) ↔ monitor.Retires call record) ∧
      (∀ call pid code usage record, call.change = .exit pid code usage →
        monitor.happening? call = some (.retired record) →
        record.endedAt = some (max monitor.clock.now record.startedAt) ∧ record.usage = usage) ∧
      (∀ call record, monitor.happening? call = some (.retired record) →
        record.id ∈ since.startedIds → 0 < monitor.store.stats.current) ∧
      ∀ call, (∀ happening, monitor.happening? call = some happening →
          ∃ record, happening = .retired record ∧ record.id ∉ since.startedIds) →
        (monitor.perform call).monitor.store.stats = monitor.store.stats := by
  intro monitor since
  have start := Roster.Pictures.create options time
  have pictures := start.after calls
  have empty : (Roster.create options time).Accounts (History.sinceReset []) :=
    Roster.Accounts.of_reset rfl rfl
  have accounts : ((Roster.create options time).after calls).Accounts since :=
    empty.after start calls
  have stats := pictures.models.stats
  refine ⟨?_, ?_, pictures.happening?_eq_started_iff, pictures.happening?_eq_retired_iff, ?_, ?_, ?_⟩
  · rw [stats]
    exact accounts.recounts
  · intro pid parent name id
    have answer : (monitor.perform (.start pid parent name)).answer =
        .started (monitor.store.start monitor.clock.now pid parent name).value := rfl
    rw [happening?_start, answer]
    simp
  · intro call pid code usage record change retired
    exact ended_of_commitExit (commitExit_of_happening? change retired)
  · intro call ended retired added
    rw [pictures.happening?] at retired
    obtain ⟨record, member, running, same⟩ := Roster.exists_running retired
    rw [stats]
    exact accounts.current_pos member running (same ▸ added)
  · intro call quiet
    have next := (pictures.undergo call.change).models.stats
    rw [perform_monitor, next, Roster.stats_undergo, stats]
    rw [pictures.happening?] at quiet
    cases happens : ((Roster.create options time).after calls).happening? call.change with
    | none => rfl
    | some happening =>
        obtain ⟨ended, rfl, old⟩ := quiet happening happens
        obtain ⟨record, member, -, same⟩ := Roster.exists_running happens
        apply accounts.countExit_of_old ?_ old
        exact same ▸ pictures.models.numbered.below record member

/-- Process 7 starts before the reset and process 8 after it.  The end of process 7 leaves the counters
alone, although it is one, and the end of process 8 is all that they count. -/
theorem statistics_recount_of_reset :
    let usage : Usage := { cpuTime := 3 }
    let calls : List Call :=
      [.start 7 1 "sh", .resetStatistics, .start 8 1 "sh", .moveClock (.advance ⟨4⟩)]
    let monitor := (create {} 5).1.after calls
    let final := (create {} 5).1.after (calls ++ [.exit 7 0 usage, .exit 8 0 usage])
    let older := (Record.started 1 7 1 (CommandName.ofString "sh") 5).ended 9 0 usage
    let later := (Record.started 2 8 1 (CommandName.ofString "sh") 5).ended 9 0 usage
    monitor.Adds (.start 9 1 "sh") 3 ∧
      monitor.Retires (.exit 7 0 usage) older ∧
      (monitor.perform (.exit 7 0 usage)).monitor.store.stats = monitor.store.stats ∧
      monitor.Retires (.exit 8 0 usage) later ∧ later.endedAt = some 9 ∧
      0 < monitor.store.stats.current ∧
      final.store.stats.exited = 1 ∧ final.store.stats.totalLifetime = 4 := by
  intro usage calls monitor final older later
  have since : ((create {} 5).1.history calls).sinceReset = [.started 2] := by decide +kernel
  have addsNine : monitor.happening? (.start 9 1 "sh") = some (.started 3) := by decide +kernel
  have endsOlder : monitor.happening? (.exit 7 0 usage) = some (.retired older) := by decide +kernel
  have endsLater : monitor.happening? (.exit 8 0 usage) = some (.retired later) := by decide +kernel
  obtain ⟨-, -, adds, retires, ends, positive, quiet⟩ := statistics_recount {} 5 calls
  rw [since] at positive quiet
  have old : (monitor.perform (.exit 7 0 usage)).monitor.store.stats = monitor.store.stats := by
    refine quiet (.exit 7 0 usage) fun happening happens => ⟨older, ?_, by decide⟩
    exact Option.some.inj (happens.symm.trans endsOlder)
  obtain ⟨endedAt, -⟩ := ends (.exit 8 0 usage) 8 0 usage later rfl endsLater
  let exits : List Call := [.exit 7 0 usage, .exit 8 0 usage]
  have counted : ((create {} 5).1.history (calls ++ exits)).sinceReset.countedExits = [later] := by
    decide +kernel
  have counts := (statistics_recount {} 5 (calls ++ exits)).1.exits
  rw [counted] at counts
  refine ⟨(adds _ _).mp addsNine, (retires _ _).mp endsOlder, old, (retires _ _).mp endsLater,
    endedAt, positive _ later endsLater (by decide), counts.exited, counts.totalLifetime⟩

end Monitor

end ProcessWatch
