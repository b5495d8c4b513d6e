/-
Module: ProcessWatch.Proofs.Roster.Logging
Purpose: What is logged of starts and exits, and that it agrees with what a listing then shows.
Trusted boundary: calls meet enough memory, for which Proofs.Roster.Memory gives a condition
Main exports: Log.saying, Log.ReportsIff, Monitor.Retires, Roster.Pictures.retires_iff,
  Roster.Pictures.start_reports, Roster.Pictures.exit_reports, Roster.Pictures.untracked_reports,
  Monitor.logged_iff_listed

What is logged of a record is decided after the change, by the filter as it is then; a listing looks at
the entries of the store.
-/
import ProcessWatch.Proofs.Roster.Conservation
import ProcessWatch.Proofs.Roster.Matching

namespace ProcessWatch

/-! ## Reports -/

namespace Log

/-- The events of a log with that message. -/
def saying (message : String) (log : List LogEvent) : List LogEvent :=
  log.filter fun event => event.message = message

/-- The log says what the event says exactly once, with that event, if the condition holds, and not at
all otherwise. -/
structure ReportsIff (log : List LogEvent) (event : LogEvent) (condition : Prop) : Prop where
  once : condition → saying event.message log = [event]
  never : ¬ condition → saying event.message log = []

variable {log : List LogEvent} {event : LogEvent} {condition other : Prop}

/-- A condition may be put in other words. -/
theorem ReportsIff.congr (reports : ReportsIff log event condition) (same : condition ↔ other) :
    ReportsIff log event other where
  once := fun holds => reports.once (same.mpr holds)
  never := fun fails => reports.never fun holds => fails (same.mp holds)

theorem reportsIff_nil (event : LogEvent) (fails : ¬ condition) : ReportsIff [] event condition where
  once := fun holds => absurd holds fails
  never := fun _ => rfl

end Log

namespace Store

variable (store : Store)

/-- The eviction that goes before it does not matter. -/
theorem startLog_reports (record : Record) (evicted : Option Record) :
    Log.ReportsIff (store.startLog (.added record evicted))
      (.processCreated record.pid record.parent record.name)
      (store.filter.accepts record.subject = true) := by
  constructor
  · intro accepted
    rw [startLog, if_pos accepted]
    cases evicted <;> rfl
  · intro rejected
    rw [startLog, if_neg rejected]
    cases evicted <;> rfl

/-- The end of a record is reported if the filter accepts the record as it has ended. -/
theorem exitLog_reports (pid : Pid) (record : Record) :
    Log.ReportsIff (store.exitLog pid (.retired record))
      (.processExited record.pid record.exitCode record.lifetimeSeconds)
      (store.filter.accepts record.subject = true) := by
  constructor
  · intro accepted
    rw [exitLog, if_pos accepted]
    rfl
  · intro rejected
    rw [exitLog, if_neg rejected]
    rfl

/-- An exit is reported as untracked exactly if it is. -/
theorem exitLog_untracked_reports (pid : Pid) (result : ExitResult) :
    Log.ReportsIff (store.exitLog pid result) (.untrackedExit pid) (result = .untracked) := by
  cases result with
  | rejected => exact Log.reportsIff_nil _ fun same => nomatch same
  | untracked => exact ⟨fun _ => rfl, fun fails => absurd rfl fails⟩
  | retired record =>
      refine ⟨fun same => (nomatch same), fun _ => ?_⟩
      rw [exitLog]
      split <;> rfl

/-- Nothing is said to have ended if nothing has. -/
theorem saying_exited_exitLog (pid : Pid) {result : ExitResult}
    (nothing : ∀ record, result ≠ .retired record) :
    Log.saying "process exited" (store.exitLog pid result) = [] := by
  cases result with
  | rejected => rfl
  | untracked => rfl
  | retired record => exact absurd rfl (nothing record)

end Store

/-! ## One call -/

/-- The record as it stands after the call has ended, and ran before it. -/
def Monitor.Retires (monitor : Monitor) (call : Monitor.Call) (record : Record) : Prop :=
  record ∈ (monitor.perform call).monitor.held ∧ record.status = .exited ∧
    ∃ old ∈ monitor.held, old.id = record.id ∧ old.status = .running

namespace Roster

open Monitor (Call Change)

variable {roster : Roster} {monitor : Monitor} {record : Record} {pid : Pid} {code : ExitCode}
  {usage : Usage}

/-- An exit retires the record that it ends. -/
theorem exitResult_eq_retired_iff :
    Models.exitResult roster pid code usage = .retired record ↔
      roster.ending? pid code usage = some record := by
  rw [Models.exitResult, ending?]
  cases roster.monitoring with
  | false => simp
  | true => cases Records.lastRunning? roster.records pid <;> simp

/-- An exit is untracked if the roster records and no record about its process number runs. -/
theorem exitResult_eq_untracked_iff :
    Models.exitResult roster pid code usage = .untracked ↔
      roster.monitoring = true ∧
        ∀ record ∈ roster.records, record.pid = pid → record.status ≠ .running := by
  have untracked : Records.lastRunning? roster.records pid = none ↔
      ∀ record ∈ roster.records, record.pid = pid → record.status ≠ .running := by
    simp [Records.lastRunning?_eq_none_iff, Record.runsAs, Record.isRunning]
  rw [← untracked, Models.exitResult, ending?]
  cases roster.monitoring with
  | false => simp
  | true => cases Records.lastRunning? roster.records pid <;> simp

namespace Pictures

/-- The roster pictures the monitor after a call if it undergoes the change of the call. -/
theorem perform (pictures : roster.Pictures monitor) (call : Call) :
    (roster.undergo call.change).Pictures (monitor.perform call).monitor := by
  rw [Monitor.perform_monitor]
  exact pictures.undergo call.change

/-- A start answers with the number that the roster gives out. -/
theorem start_answer (pictures : roster.Pictures monitor) (parent : Pid) (name : String) :
    (monitor.perform (.start pid parent name)).answer =
      .started (Models.startResult roster pid parent (CommandName.ofString name)).id? := by
  rw [← (pictures.models.commitStart pid parent (CommandName.ofString name)).1, pictures.clock]
  exact congrArg Monitor.Answer.started (Monitor.start_value _ _ _ _ _)

theorem start_log (pictures : roster.Pictures monitor) (parent : Pid) (name : String) :
    let result := monitor.perform (.start pid parent name)
    result.log =
      result.monitor.store.startLog
        (Models.startResult roster pid parent (CommandName.ofString name)) := by
  intro result
  rw [← (pictures.models.commitStart pid parent (CommandName.ofString name)).1, pictures.clock,
    Monitor.perform_monitor]
  exact Store.start_log _ _ _ _ _

theorem exit_log (pictures : roster.Pictures monitor) :
    let result := monitor.perform (.exit pid code usage)
    result.log = result.monitor.store.exitLog pid (Models.exitResult roster pid code usage) := by
  intro result
  rw [← (pictures.models.commitExit pid code usage).1, pictures.clock, Monitor.perform_monitor]
  exact Store.exit_log _ _ _ _ _

/-- What has ended by a call was not held as it stands now: the record with its number ran. -/
theorem not_mem_records_of_retires (pictures : roster.Pictures monitor) {call : Call}
    (retires : monitor.Retires call record) : record ∉ roster.records := by
  obtain ⟨-, exited, old, held, sameId, running⟩ := retires
  intro kept
  obtain rfl := pictures.models.numbered.eq_of_id_eq kept (pictures.held ▸ held) sameId
  rw [running] at exited
  cases exited

/-- Of what is held after an exit, only the record that it ends has ended and ran before. -/
theorem retires_iff (pictures : roster.Pictures monitor) :
    monitor.Retires (.exit pid code usage) record ↔
      roster.ending? pid code usage = some record := by
  constructor
  · intro retires
    have notKept := pictures.not_mem_records_of_retires retires
    have member : record ∈ (roster.undergo (.exit pid code usage)).records :=
      (pictures.perform (.exit pid code usage)).held ▸ retires.1
    rcases roster.exit_split pid code usage with
      ⟨-, same⟩ | ⟨before, running, after, split, -, ending, records⟩
    · exact absurd (same ▸ member) notKept
    · rw [ending]
      have parts : record ∈ before ∨ record = running.ended roster.clock.now code usage ∨
          record ∈ after := by
        simpa only [Call.change, Roster.undergo, records, List.mem_append, List.mem_cons] using member
      rcases parts with early | rfl | late
      · exact absurd (by simp [split, early]) notKept
      · rfl
      · exact absurd (by simp [split, late]) notKept
  · intro ending
    rcases roster.exit_split pid code usage with
      ⟨nothing, -⟩ | ⟨before, running, after, -, last, ended, records⟩
    · rw [nothing] at ending
      cases ending
    · obtain rfl := Option.some.inj (ended.symm.trans ending)
      obtain ⟨held, runs⟩ := Records.runsAs_of_lastRunning? last
      rw [← pictures.held] at held
      refine ⟨?_, rfl, running, held, rfl, Record.status_of_runsAs runs⟩
      rw [(pictures.perform _).held, Call.change, Roster.undergo, records]
      exact List.mem_append_right _ List.mem_cons_self

/-- A start is logged once if it adds a record that is then listed, and not at all otherwise. -/
theorem start_reports (pictures : roster.Pictures monitor) (pid parent : Pid) (name : String) :
    let result := monitor.perform (.start pid parent name)
    Log.ReportsIff result.log (.processCreated pid parent (CommandName.ofString name))
      (∃ id, result.answer = .started (some id) ∧
        id ∈ result.monitor.matching.map Record.id) := by
  intro result
  have next := pictures.perform (.start pid parent name)
  have log : result.log = _ := pictures.start_log parent name
  have answer : result.answer = _ := pictures.start_answer parent name
  rw [log, answer, Models.startResult]
  rw [Call.change, Roster.undergo] at next
  cases recording : roster.monitoring with
  | false =>
      apply Log.reportsIff_nil
      rintro ⟨id, added, -⟩
      cases added
  | true =>
      let record := Record.started roster.nextId pid parent (CommandName.ofString name)
        roster.clock.now
      have held : record ∈ (roster.start pid parent (CommandName.ofString name)).2.records := by
        rw [start_of_recording parent _ recording]
        exact List.mem_append_right _ (List.mem_singleton_self record)
      apply (Store.startLog_reports _ record _).congr
      rw [next.accepts_iff_mem_matching held]
      constructor
      · exact fun listed => ⟨record.id, rfl, List.mem_map_of_mem listed⟩
      · rintro ⟨id, added, listed⟩
        cases added
        obtain ⟨other, inside, sameId⟩ := List.mem_map.mp listed
        have otherHeld := (next.mem_matching_iff.mp inside).1
        exact next.models.numbered.eq_of_id_eq held otherHeld sameId ▸ inside

/-- An exit that ends a record is logged once if the record is then listed, and not at all
otherwise. -/
theorem exit_reports (pictures : roster.Pictures monitor)
    (retires : monitor.Retires (.exit pid code usage) record) :
    let result := monitor.perform (.exit pid code usage)
    Log.ReportsIff result.log (.processExited record.pid record.exitCode record.lifetimeSeconds)
      (record ∈ result.monitor.matching) := by
  intro result
  have next := pictures.perform (.exit pid code usage)
  have held : record ∈ (roster.undergo (.exit pid code usage)).records := next.held ▸ retires.1
  have log : result.log = _ := pictures.exit_log
  rw [log, exitResult_eq_retired_iff.mpr (pictures.retires_iff.mp retires)]
  exact (Store.exitLog_reports _ pid record).congr (next.accepts_iff_mem_matching held)

/-- An exit that ends no record is not logged as one that does. -/
theorem exit_silent (pictures : roster.Pictures monitor)
    (nothing : ∀ record, ¬ monitor.Retires (.exit pid code usage) record) :
    Log.saying "process exited" (monitor.perform (.exit pid code usage)).log = [] := by
  have log : (monitor.perform (.exit pid code usage)).log = _ := pictures.exit_log
  rw [log]
  apply Store.saying_exited_exitLog
  intro record same
  exact nothing record (pictures.retires_iff.mpr (exitResult_eq_retired_iff.mp same))

/-- An exit is logged as untracked if it is looked at and no record of a running process is about
it. -/
theorem untracked_reports (pictures : roster.Pictures monitor) (pid : Pid) (code : ExitCode)
    (usage : Usage) :
    Log.ReportsIff (monitor.perform (.exit pid code usage)).log (.untrackedExit pid)
      (monitor.store.monitoring = true ∧
        ∀ record ∈ monitor.held, record.pid = pid → record.status ≠ .running) := by
  have log : (monitor.perform (.exit pid code usage)).log = _ := pictures.exit_log
  rw [log, pictures.held, pictures.models.monitoring]
  exact (Store.exitLog_untracked_reports _ pid _).congr exitResult_eq_untracked_iff

/-- What an exit ends is a record about its process number with the exit code that it gives. -/
theorem ended_of_retires (pictures : roster.Pictures monitor)
    (retires : monitor.Retires (.exit pid code usage) record) :
    record.pid = pid ∧ record.exitCode = code ∧ ∃ time, record.endedAt = some time ∧
      record.startedAt ≤ time ∧
      record.lifetimeSeconds = (time - record.startedAt) / nanosPerSecond := by
  have ending := pictures.retires_iff.mp retires
  rcases roster.exit_split pid code usage with
    ⟨nothing, -⟩ | ⟨before, running, after, -, last, ended, -⟩
  · rw [nothing] at ending
    cases ending
  · obtain rfl := Option.some.inj (ended.symm.trans ending)
    have runs := (Records.runsAs_of_lastRunning? last).2
    exact ⟨(Record.runsAs_iff.mp runs).1, rfl, _, rfl, Nat.le_max_right _ _, rfl⟩

end Pictures

end Roster

/-! ## A monitor from its start -/

namespace Monitor

/-- In every state a start is logged exactly if it returns a number and a listing right after it shows
the record with that number; an exit is logged exactly if it ends a record and a listing right after
it shows that record; and an exit is logged as untracked exactly if the monitor records and holds no
running record about its process number.  Nothing is logged twice. -/
theorem logged_iff_listed (options : Store.Options) (time : Timestamp) (calls : List Call) :
    let monitor := (create options time).1.after calls
    (∀ pid parent name,
      let result := monitor.perform (.start pid parent name)
      Log.ReportsIff result.log (.processCreated pid parent (CommandName.ofString name))
        (∃ id, result.answer = .started (some id) ∧
          id ∈ result.monitor.matching.map Record.id)) ∧
      ∀ pid code usage,
        let result := monitor.perform (.exit pid code usage)
        (∀ record, monitor.Retires (.exit pid code usage) record →
          ∃ endedAt, record.endedAt = some endedAt ∧ record.startedAt ≤ endedAt ∧
            Log.ReportsIff result.log
              (.processExited pid code ((endedAt - record.startedAt) / nanosPerSecond))
              (record ∈ result.monitor.matching)) ∧
          ((∀ record, ¬ monitor.Retires (.exit pid code usage) record) →
            Log.saying "process exited" result.log = []) ∧
          Log.ReportsIff result.log (.untrackedExit pid)
            (monitor.store.monitoring = true ∧
              ∀ record ∈ monitor.held, record.pid = pid → record.status ≠ .running) := by
  intro monitor
  have pictures : ((Roster.create options time).after calls).Pictures monitor :=
    (Roster.Pictures.create options time).after calls
  refine ⟨pictures.start_reports, fun pid code usage => ⟨?_, ?_, ?_⟩⟩
  · intro record retires
    obtain ⟨about, exitCode, endedAt, ended, notBefore, seconds⟩ := pictures.ended_of_retires retires
    have reports := pictures.exit_reports retires
    rw [about, exitCode, seconds] at reports
    exact ⟨endedAt, ended, notBefore, reports⟩
  · exact pictures.exit_silent
  · exact pictures.untracked_reports pid code usage

/-- A process that the filter names is logged when it ends after nearly three seconds.  One that it
does not name is not logged when it starts, although it makes the other one go. -/
theorem logged_iff_listed_of_two_seconds :
    let filter := Filter.ofRequirements [.enabled, .command "sh", .maxLifetime 2]
    let options : Store.Options := { capacity := 1, filter := filter }
    let calls : List Call := [.start 7 1 "sh", .moveClock (.advance ⟨2999999999⟩)]
    let monitor := (create options 5).1.after calls
    let running := Record.started 1 7 1 (CommandName.ofString "sh") 5
    monitor.Retires (.exit 7 3 {}) (running.ended 3000000004 3 {}) ∧
      Log.saying "process exited" (monitor.perform (.exit 7 3 {})).log =
        [.processExited 7 3 2] ∧
      (monitor.perform (.start 8 1 "zsh")).log = [.recordEvicted 7 1] ∧
      Log.saying "process created" (monitor.perform (.start 8 1 "zsh")).log = [] ∧
      Log.saying "exit for untracked pid ignored" (monitor.perform (.exit 9 0 {})).log =
        [.untrackedExit 9] := by
  intro filter options calls monitor running
  have before : running ∈ monitor.held := by decide +kernel
  have after : running.ended 3000000004 3 {} ∈ (monitor.perform (.exit 7 3 {})).monitor.held := by
    decide +kernel
  have listed :
      running.ended 3000000004 3 {} ∈ (monitor.perform (.exit 7 3 {})).monitor.matching := by
    decide +kernel
  have unlisted : (monitor.perform (.start 8 1 "zsh")).monitor.matching = [] := by decide +kernel
  have evicts : (monitor.perform (.start 8 1 "zsh")).log = [.recordEvicted 7 1] := by
    decide +kernel
  have untracked : ∀ record ∈ monitor.held, record.pid = 9 → record.status ≠ .running := by
    decide +kernel
  have retires : monitor.Retires (.exit 7 3 {}) (running.ended 3000000004 3 {}) :=
    ⟨after, rfl, running, before, rfl, rfl⟩
  obtain ⟨starts, exits⟩ := logged_iff_listed options 5 calls
  obtain ⟨ends, -, -⟩ := exits 7 3 {}
  obtain ⟨endedAt, ended, -, reports⟩ := ends _ retires
  obtain rfl : 3000000004 = endedAt := Option.some.inj ended
  have seconds :
      (3000000004 - (running.ended 3000000004 3 {}).startedAt) / nanosPerSecond = 2 := by decide
  rw [seconds] at reports
  obtain ⟨-, -, ignores⟩ := exits 9 0 {}
  refine ⟨retires, reports.once listed, evicts, (starts 8 1 "zsh").never ?_,
    ignores.once ⟨rfl, untracked⟩⟩
  rintro ⟨id, -, shown⟩
  rw [unlisted] at shown
  cases shown

end Monitor

end ProcessWatch
