/-
Module: ProcessWatch.Proofs.Monitor.Change
Purpose: What a call does to the state of a monitor, apart from how it is answered and logged.
Trusted boundary: none
Main exports: Monitor.Change, Monitor.Call.change, Monitor.undergo, Monitor.answers, Monitor.after,
  Monitor.log, Monitor.startedIds, Monitor.perform_monitor
-/
import ProcessWatch.Monitor

namespace ProcessWatch

namespace Monitor

/-- A change of the state of a monitor. -/
inductive Change where
  | nothing
  | start (pid parent : Pid) (name : CommandName)
  | exit (pid : Pid) (code : ExitCode) (usage : Usage)
  | moveClock (move : Clock.Move)
  | setMonitoring (monitoring : Bool)
  | clear
  | resetStatistics
  | askFilter (call : Filter.Call)

namespace Call

/-- What a call changes.  Several calls may make the same change, and a question makes none. -/
def change : Call → Change
  | .start pid parent name => .start pid parent (CommandName.ofString name)
  | .exit pid code usage => .exit pid code usage
  | .deliver (.start pid parent name) => .start pid parent (CommandName.ofString name.text)
  | .deliver (.exit pid code usage) => .exit pid code usage
  | .moveClock move => .moveClock move
  | .setMonitoring monitoring => .setMonitoring monitoring
  | .clear => .clear
  | .resetStatistics => .resetStatistics
  | .shutdown => .clear
  | .obey .start => .setMonitoring true
  | .obey .stop => .setMonitoring false
  | .obey .clear => .clear
  | .obey .resetStatistics => .resetStatistics
  | .askFilter call => .askFilter call
  | _ => .nothing

/-- The call reports the start of a process. -/
def isStart : Call → Bool
  | .start _ _ _ => true
  | .deliver (.start _ _ _) => true
  | _ => false

end Call

/-- The answer to a start: the number of the new record, if there is one. -/
def Answer.started? : Answer → Option (Option RecordId)
  | .started id => some id
  | _ => none

/-- Make a change. -/
def undergo (monitor : Monitor) : Change → Monitor
  | .nothing => monitor
  | .start pid parent name =>
      { monitor with
        store := (monitor.store.commitStart monitor.clock.now pid parent name).2 }
  | .exit pid code usage =>
      { monitor with store := (monitor.store.commitExit monitor.clock.now pid code usage).2 }
  | .moveClock move => { monitor with clock := monitor.clock.move move }
  | .setMonitoring monitoring =>
      { monitor with store := monitor.store.setMonitoring monitoring }
  | .clear => { monitor with store := monitor.store.clear.store }
  | .resetStatistics => { monitor with store := monitor.store.resetStatistics.store }
  | .askFilter call => { monitor with store := (monitor.store.askFilter call).store }

/-! ## One call -/

/-- A start returns the number that its second step gave to the record. -/
theorem start_value (store : Store) (now : Timestamp) (pid parent : Pid) (name : String) :
    (store.start now pid parent name).value =
      (store.commitStart now pid parent (CommandName.ofString name)).1.id? := by
  rw [Store.start]
  by_cases recording : store.monitoring = true
  · rw [if_pos recording]
  · rw [if_neg recording, Store.commitStart, if_neg recording]
    rfl

/-- A start that sees the store not record leaves it as its second step would. -/
theorem start_store (store : Store) (now : Timestamp) (pid parent : Pid) (name : String) :
    (store.start now pid parent name).store =
      (store.commitStart now pid parent (CommandName.ofString name)).2 := by
  rw [Store.start]
  by_cases recording : store.monitoring = true
  · rw [if_pos recording]
  · rw [if_neg recording, Store.commitStart, if_neg recording]

theorem exit_store (store : Store) (now : Timestamp) (pid : Pid) (code : ExitCode)
    (usage : Usage) :
    (store.exit now pid code usage).store = (store.commitExit now pid code usage).2 := by
  rw [Store.exit]
  by_cases recording : store.monitoring = true
  · rw [if_pos recording]
  · rw [if_neg recording, Store.commitExit, if_neg recording]

/-- After a call a monitor has undergone the change of the call. -/
theorem perform_monitor (monitor : Monitor) (call : Call) :
    (monitor.perform call).monitor = monitor.undergo call.change := by
  cases call with
  | start pid parent name =>
      exact congrArg (Monitor.mk monitor.clock) (start_store _ _ _ _ _)
  | exit pid code usage =>
      exact congrArg (Monitor.mk monitor.clock) (exit_store _ _ _ _ _)
  | deliver event =>
      cases event with
      | start pid parent name =>
          exact congrArg (Monitor.mk monitor.clock) (start_store _ _ _ _ _)
      | exit pid code usage =>
          exact congrArg (Monitor.mk monitor.clock) (exit_store _ _ _ _ _)
  | obey order => cases order <;> rfl
  | _ => rfl

/-- Only a start is answered by what became of a start. -/
theorem started?_answer (monitor : Monitor) (call : Call) :
    (monitor.perform call).answer.started? =
      match call with
      | .start pid parent name =>
          some (monitor.store.commitStart monitor.clock.now pid parent
            (CommandName.ofString name)).1.id?
      | _ => none := by
  cases call with
  | start pid parent name => exact congrArg some (start_value _ _ _ _ _)
  | _ => rfl

/-! ## Several calls -/

/-- The answers to some calls, made one after the other. -/
def answers (monitor : Monitor) (calls : List Call) : List Answer := (monitor.run calls).1

/-- The monitor after some calls. -/
def after (monitor : Monitor) (calls : List Call) : Monitor := (monitor.run calls).2.1

/-- What some calls log. -/
def log (monitor : Monitor) (calls : List Call) : List LogEvent := (monitor.run calls).2.2

/-- What became of the starts among some calls. -/
def startedIds (monitor : Monitor) (calls : List Call) : List (Option RecordId) :=
  (monitor.answers calls).filterMap Answer.started?

@[simp] theorem answers_nil (monitor : Monitor) : monitor.answers [] = [] := rfl

@[simp] theorem after_nil (monitor : Monitor) : monitor.after [] = monitor := rfl

@[simp] theorem answers_cons (monitor : Monitor) (call : Call) (calls : List Call) :
    monitor.answers (call :: calls) =
      (monitor.perform call).answer :: (monitor.undergo call.change).answers calls := by
  rw [← perform_monitor]
  rfl

@[simp] theorem after_cons (monitor : Monitor) (call : Call) (calls : List Call) :
    monitor.after (call :: calls) = (monitor.undergo call.change).after calls := by
  rw [← perform_monitor]
  rfl

/-- What some calls log is what the first logs and then the others. -/
theorem log_cons (monitor : Monitor) (call : Call) (calls : List Call) :
    monitor.log (call :: calls) =
      (monitor.perform call).log ++ (monitor.undergo call.change).log calls := by
  rw [← perform_monitor]
  rfl

/-- Calls can be made in two stretches. -/
theorem after_append (monitor : Monitor) (calls more : List Call) :
    monitor.after (calls ++ more) = (monitor.after calls).after more := by
  induction calls generalizing monitor with
  | nil => rfl
  | cons call calls inductionHypothesis =>
      rw [List.cons_append, after_cons, after_cons]
      exact inductionHypothesis _

theorem answers_append (monitor : Monitor) (calls more : List Call) :
    monitor.answers (calls ++ more) = monitor.answers calls ++ (monitor.after calls).answers more := by
  induction calls generalizing monitor with
  | nil => rfl
  | cons call calls inductionHypothesis =>
      rw [List.cons_append, answers_cons, answers_cons, after_cons, List.cons_append]
      exact congrArg _ (inductionHypothesis _)

end Monitor

end ProcessWatch
