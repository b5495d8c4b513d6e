/-
Module: ProcessWatch.Proofs.Roster.Reports
Purpose: Reports of starts and exits to a roster that records and has room for them: the records about
  some process numbers depend on the reports about these numbers alone.
Trusted boundary: calls meet enough memory, for which Proofs.Roster.Memory gives a condition
Main exports: Monitor.Call.reported?, Records.seen, Roster.Ready, Roster.Ready.undergo_cases,
  Roster.Ready.map_id_after, Roster.Ready.seen_after, Roster.Ready.exists_happened

Among many reports a record may get any number, but it gets a new one.  So the records are looked at
without the numbers that were given out since some moment.
-/
import ProcessWatch.Proofs.Roster.Running

namespace ProcessWatch

open Monitor (Call Change)

/-! ## Reports -/

namespace Monitor.Call

/-- The process number that a report of a start or an exit is about. -/
def reported? : Call → Option Pid
  | .start pid _ _ => some pid
  | .exit pid _ _ => some pid
  | .deliver (.start pid _ _) => some pid
  | .deliver (.exit pid _ _) => some pid
  | _ => none

/-- The call reports about one of some process numbers. -/
def isAbout (mine : Pid → Bool) (call : Call) : Bool := call.reported?.any mine

theorem isAbout_of_reported? {call : Call} {pid : Pid} (about : call.reported? = some pid)
    (mine : Pid → Bool) : call.isAbout mine = mine pid := by
  rw [isAbout, about, Option.any_some]

/-- A report is one of a start or one of an exit. -/
theorem report_cases {call : Call} {pid : Pid} (about : call.reported? = some pid) :
    (∃ parent name, call.change = .start pid parent name ∧ call.isStart = true) ∨
      ∃ code usage, call.change = .exit pid code usage ∧ call.isStart = false := by
  cases call with
  | start reported parent name =>
      obtain rfl := Option.some.inj about
      exact Or.inl ⟨parent, _, rfl, rfl⟩
  | exit reported code usage =>
      obtain rfl := Option.some.inj about
      exact Or.inr ⟨code, usage, rfl, rfl⟩
  | deliver event =>
      cases event with
      | start reported parent name =>
          obtain rfl := Option.some.inj about
          exact Or.inl ⟨parent, _, rfl, rfl⟩
      | exit reported code usage =>
          obtain rfl := Option.some.inj about
          exact Or.inr ⟨code, usage, rfl, rfl⟩
  | _ => cases about

end Monitor.Call

/-! ## Records without new numbers -/

/-- The process has ended. -/
def Record.hasStopped (record : Record) : Bool := !record.isRunning

/-- The record without its own number, if that is a new one: all numbers from `first` on are taken for
`first`. -/
def Record.unnumberFrom (first : RecordId) (record : Record) : Record :=
  { record with id := min record.id first }

namespace Records

/-- What a report does to records if there is room for one more. -/
def follow (now : Timestamp) (id : RecordId) (records : List Record) : Change → List Record
  | .start pid parent name => records ++ [Record.started id pid parent name now]
  | .exit pid code usage =>
      changeLastRunning pid (fun record => record.ended now code usage) records
  | _ => records

/-- What there is to see of the records about some process numbers. -/
def seen (mine : Pid → Bool) (first : RecordId) (records : List Record) : List Record :=
  (records.filter fun record => mine record.pid).map (Record.unnumberFrom first)

variable {mine : Pid → Bool} {first id : RecordId} {pid : Pid}

/-- A start is seen among some process numbers exactly if it is about one of them. -/
theorem seen_start (new : first ≤ id) (records : List Record) (parent : Pid) (name : CommandName)
    (now : Timestamp) :
    seen mine first (follow now id records (.start pid parent name)) =
      if mine pid then
        follow now first (seen mine first records) (.start pid parent name)
      else
        seen mine first records := by
  have unnumbered : (Record.started id pid parent name now).unnumberFrom first =
      Record.started first pid parent name now := by
    simp only [Record.unnumberFrom, Record.started, Nat.min_eq_right new]
  have about : (Record.started id pid parent name now).pid = pid := rfl
  simp only [seen, follow, List.filter_append, List.map_append, List.filter_cons, about,
    List.filter_nil]
  split
  · rw [List.map_singleton, unnumbered]
  · exact List.append_nil _

theorem seen_exit (records : List Record) (code : ExitCode) (usage : Usage) (now : Timestamp) :
    seen mine first (follow now id records (.exit pid code usage)) =
      if mine pid then
        follow now first (seen mine first records) (.exit pid code usage)
      else
        seen mine first records := by
  have samePid : ∀ record : Record, (record.ended now code usage).pid = record.pid := fun _ => rfl
  rw [seen, follow, filter_changeLastRunning samePid mine records]
  split
  · apply Eq.symm
    apply changeLastRunning_map
    · intro record
      rfl
    · intro record
      rfl
  · rfl

/-- What is seen of the records changes with the reports about them and with no others. -/
theorem seen_follow (new : first ≤ id) (records : List Record) (now : Timestamp) {call : Call}
    (about : call.reported? = some pid) :
    seen mine first (follow now id records call.change) =
      if mine pid then
        follow now first (seen mine first records) call.change
      else
        seen mine first records := by
  rcases Call.report_cases about with ⟨parent, name, change, -⟩ | ⟨code, usage, change, -⟩
  · rw [change, seen_start new]
  · rw [change, seen_exit]

end Records

namespace Roster

/-! ## A roster that is ready for reports -/

/-- The calls are reports, and the roster records them and has room for them. -/
structure Ready (roster : Roster) (calls : List Call) : Prop where
  recording : roster.monitoring = true
  reports : ∀ call ∈ calls, call.reported?.isSome = true
  room : roster.records.length + calls.countP Call.isStart ≤ roster.capacity

@[simp] theorem monitoring_exit (roster : Roster) (pid : Pid) (code : ExitCode) (usage : Usage) :
    (roster.exit pid code usage).monitoring = roster.monitoring := by
  rw [exit]
  split <;> rfl

@[simp] theorem firstCounted_exit (roster : Roster) (pid : Pid) (code : ExitCode) (usage : Usage) :
    (roster.exit pid code usage).firstCounted = roster.firstCounted := by
  rw [exit]
  split <;> rfl

/-- An exit that is recorded ends the last running record, if there is one. -/
theorem records_exit (roster : Roster) (recording : roster.monitoring = true) (pid : Pid)
    (code : ExitCode) (usage : Usage) :
    (roster.exit pid code usage).records =
      Records.changeLastRunning pid (fun record => record.ended roster.clock.now code usage)
        roster.records := by
  cases last : Records.lastRunning? roster.records pid with
  | none => rw [exit_of_untracked code usage last, Records.changeLastRunning_of_none _ last]
  | some record => rw [exit_of_tracked code usage recording last]

namespace Ready

variable {roster : Roster} {call : Call} {calls : List Call}

/-- The first report adds a record behind all others, or it ends one. -/
theorem undergo_cases (ready : roster.Ready (call :: calls)) :
    ∃ pid, call.reported? = some pid ∧
      ((∃ parent name, call.change = .start pid parent name ∧ call.isStart = true ∧
          roster.undergo call.change =
            { roster with
              records := roster.records ++
                [Record.started roster.nextId pid parent name roster.clock.now]
              nextId := roster.nextId + 1
              stats := roster.stats.onStart }) ∨
        ∃ code usage, call.change = .exit pid code usage ∧ call.isStart = false ∧
          roster.undergo call.change = roster.exit pid code usage) := by
  obtain ⟨pid, about⟩ := Option.isSome_iff_exists.mp (ready.reports call List.mem_cons_self)
  refine ⟨pid, about, ?_⟩
  rcases Call.report_cases about with
    ⟨parent, name, change, isStart⟩ | ⟨code, usage, change, isExit⟩
  · left
    refine ⟨parent, name, change, isStart, ?_⟩
    have room := ready.room
    rw [List.countP_cons_of_pos isStart] at room
    have fits : ¬ roster.capacity ≤ roster.records.length := by omega
    rw [change, Roster.undergo, start_of_recording parent name ready.recording, Records.push,
      if_neg fits]
  · right
    exact ⟨code, usage, change, isExit, by rw [change, Roster.undergo]⟩

/-- A report does to the records what it says. -/
theorem records_undergo (ready : roster.Ready (call :: calls)) :
    (roster.undergo call.change).records =
      Records.follow roster.clock.now roster.nextId roster.records call.change := by
  obtain ⟨pid, -, starts | ends⟩ := ready.undergo_cases
  · obtain ⟨parent, name, change, -, next⟩ := starts
    rw [next, change, Records.follow]
  · obtain ⟨code, usage, change, -, next⟩ := ends
    rw [next, change, records_exit roster ready.recording, Records.follow]

/-- Reports take no time. -/
theorem clock_undergo (ready : roster.Ready (call :: calls)) :
    (roster.undergo call.change).clock = roster.clock := by
  obtain ⟨pid, -, starts | ends⟩ := ready.undergo_cases
  · obtain ⟨parent, name, -, -, next⟩ := starts
    rw [next]
  · obtain ⟨code, usage, -, -, next⟩ := ends
    rw [next, clock_exit]

/-- Reports reset no counters. -/
theorem firstCounted_undergo (ready : roster.Ready (call :: calls)) :
    (roster.undergo call.change).firstCounted = roster.firstCounted := by
  obtain ⟨pid, -, starts | ends⟩ := ready.undergo_cases
  · obtain ⟨parent, name, -, -, next⟩ := starts
    rw [next]
  · obtain ⟨code, usage, -, -, next⟩ := ends
    rw [next, firstCounted_exit]

/-- A roster that is ready for some reports is still ready after the first one. -/
theorem undergo (ready : roster.Ready (call :: calls)) :
    (roster.undergo call.change).Ready calls := by
  have room := ready.room
  have reports : ∀ other ∈ calls, other.reported?.isSome = true :=
    fun other member => ready.reports other (List.mem_cons_of_mem call member)
  obtain ⟨pid, -, starts | ends⟩ := ready.undergo_cases
  · obtain ⟨parent, name, -, isStart, next⟩ := starts
    rw [List.countP_cons_of_pos isStart] at room
    rw [next]
    refine ⟨ready.recording, reports, ?_⟩
    rw [List.length_append, List.length_singleton, Nat.add_assoc, Nat.add_comm 1]
    exact room
  · obtain ⟨code, usage, -, isExit, next⟩ := ends
    rw [List.countP_cons_of_neg (by simp [isExit])] at room
    rw [next]
    refine ⟨(monitoring_exit ..).trans ready.recording, reports, ?_⟩
    rwa [records_exit roster ready.recording, Records.length_changeLastRunning, capacity_exit]

/-! ## Several reports -/

/-- The old records stay where they are, and each start adds a record with the next number. -/
theorem map_id_after (ready : roster.Ready calls) :
    (roster.after calls).records.map Record.id =
      roster.records.map Record.id ++ List.range' roster.nextId (calls.countP Call.isStart) := by
  induction calls generalizing roster with
  | nil => exact (List.append_nil _).symm
  | cons call calls inductionHypothesis =>
      have later := inductionHypothesis ready.undergo
      rw [after_cons, later]
      obtain ⟨pid, -, starts | ends⟩ := ready.undergo_cases
      · obtain ⟨parent, name, -, isStart, next⟩ := starts
        rw [next, List.countP_cons_of_pos isStart, List.range'_succ, List.map_append,
          List.append_assoc]
        rfl
      · obtain ⟨code, usage, -, isExit, next⟩ := ends
        rw [next, map_id_exit, nextId_exit, List.countP_cons_of_neg (by simp [isExit])]

theorem firstCounted_after (ready : roster.Ready calls) :
    (roster.after calls).firstCounted = roster.firstCounted := by
  induction calls generalizing roster with
  | nil => rfl
  | cons call calls inductionHypothesis =>
      rw [after_cons, inductionHypothesis ready.undergo, ready.firstCounted_undergo]

/-- What is seen of the records about some process numbers follows from the reports about them. -/
theorem seen_after (ready : roster.Ready calls) {first : RecordId} (new : first ≤ roster.nextId)
    (mine : Pid → Bool) :
    Records.seen mine first (roster.after calls).records =
      (calls.filter fun call => call.isAbout mine).foldl
        (fun records call => Records.follow roster.clock.now first records call.change)
        (Records.seen mine first roster.records) := by
  induction calls generalizing roster with
  | nil => rfl
  | cons call calls inductionHypothesis =>
      obtain ⟨pid, about, -⟩ := ready.undergo_cases
      have later := inductionHypothesis ready.undergo
        (Nat.le_trans new (roster.nextId_le_undergo call.change))
      rw [ready.clock_undergo, ready.records_undergo, Records.seen_follow new _ _ about] at later
      rw [after_cons, later, List.filter_cons, Call.isAbout_of_reported? about]
      split <;> rfl

/-- A report makes a record start, or makes one stop, or makes nothing happen. -/
theorem exists_happened_undergo (ready : roster.Ready (call :: calls)) (numbered : roster.Numbered)
    {since : History} (accounts : roster.Accounts since) :
    ∃ happened : History, (roster.undergo call.change).Accounts (since ++ happened) ∧
      happened.startedIds.length = (if call.isStart then 1 else 0) ∧
      (happened.exits ++ roster.records.filter Record.hasStopped).Perm
        ((roster.undergo call.change).records.filter Record.hasStopped) := by
  obtain ⟨pid, -, starts | ends⟩ := ready.undergo_cases
  · obtain ⟨parent, name, change, isStart, next⟩ := starts
    refine ⟨[.started roster.nextId], ?_, by rw [if_pos isStart]; rfl, ?_⟩
    · rw [change]
      exact accounts.start numbered ready.recording pid parent name
    · rw [next, List.filter_append]
      exact List.Perm.of_eq (List.append_nil _).symm
  · obtain ⟨code, usage, -, isExit, next⟩ := ends
    rw [next]
    rcases roster.exit_cases pid code usage with ⟨-, same⟩ | ⟨record, recording, last, -⟩
    · rw [same]
      refine ⟨[], ?_, by rw [if_neg (by simp [isExit])]; rfl, List.Perm.refl _⟩
      rw [List.append_nil]
      exact accounts
    · refine ⟨[.retired (record.ended roster.clock.now code usage)],
        accounts.exit numbered recording last code usage, by rw [if_neg (by simp [isExit])]; rfl, ?_⟩
      obtain ⟨before, after, split, runs, noneAfter⟩ := Records.lastRunning?_eq_some_iff.mp last
      have running : record.hasStopped = false := by
        rw [Record.hasStopped, (Record.runsAs_iff.mp runs).2, Bool.not_true]
      have stopped : (record.ended roster.clock.now code usage).hasStopped = true := rfl
      rw [records_exit roster recording, split, Records.changeLastRunning_split _ runs noneAfter,
        List.filter_append, List.filter_append, List.filter_cons_of_pos stopped,
        List.filter_cons_of_neg (by simp [running])]
      show List.Perm (record.ended roster.clock.now code usage ::
        (before.filter Record.hasStopped ++ after.filter Record.hasStopped)) _
      exact List.perm_middle.symm

/-- The counters after some reports account for as many starts as were reported, and for the exits
of just the records that stopped. -/
theorem exists_happened (ready : roster.Ready calls) {monitor : Monitor}
    (pictures : roster.Pictures monitor) {since : History} (accounts : roster.Accounts since) :
    ∃ happened : History, (roster.after calls).Accounts (since ++ happened) ∧
      happened.startedIds.length = calls.countP Call.isStart ∧
      (happened.exits ++ roster.records.filter Record.hasStopped).Perm
        ((roster.after calls).records.filter Record.hasStopped) := by
  induction calls generalizing roster monitor since with
  | nil => exact ⟨[], by rwa [List.append_nil], rfl, List.Perm.refl _⟩
  | cons call calls inductionHypothesis =>
      obtain ⟨first, accountsFirst, started, stopped⟩ :=
        ready.exists_happened_undergo pictures.models.numbered accounts
      obtain ⟨later, accountsLater, startedLater, stoppedLater⟩ :=
        inductionHypothesis ready.undergo (pictures.undergo call.change) accountsFirst
      refine ⟨first ++ later, ?_, ?_, ?_⟩
      · rw [after_cons, ← List.append_assoc]
        exact accountsLater
      · rw [History.startedIds_append, List.length_append, started, startedLater, List.countP_cons,
          Nat.add_comm]
      · rw [after_cons, History.exits_append]
        have swapped : (first.exits ++ later.exits ++ roster.records.filter Record.hasStopped).Perm
            (later.exits ++ (first.exits ++ roster.records.filter Record.hasStopped)) := by
          rw [← List.append_assoc]
          exact List.perm_append_comm.append_right _
        exact swapped.trans ((stopped.append_left later.exits).trans stoppedLater)

end Ready

end Roster

end ProcessWatch
