/-
Module: ProcessWatch.Log
Purpose: What a store and its console report of their work while they do it.
Trusted boundary: none
Main exports: LogEvent, LogEvent.level, LogEvent.message, LogEvent.fields
-/
import ProcessWatch.Command.Keyword

namespace ProcessWatch

/-- How much a logged event matters. -/
inductive LogLevel where
  | trace
  | debug
  | info
  | warn
deriving DecidableEq, Repr, Inhabited

/-- The word for a level. -/
def LogLevel.label : LogLevel → String
  | .trace => "TRACE"
  | .debug => "DEBUG"
  | .info => "INFO"
  | .warn => "WARN"

/-- A value that goes with a logged event. -/
inductive LogValue where
  | number (value : Int)
  | text (value : String)
deriving DecidableEq, Repr, Inhabited

/-- One logged event. -/
inductive LogEvent where
  | storeOpened (capacity : Nat)
  | storeClosed (created exited : Nat)
  | processCreated (pid parent : Pid) (name : CommandName)
  | processExited (pid : Pid) (exitCode : ExitCode) (lifetimeSeconds : Nat)
  | untrackedExit (pid : Pid)
  | recordEvicted (pid : Pid) (id : RecordId)
  /-- There was no memory for the record of a start. -/
  | recordUnstored (pid : Pid) (error : String)
  | recordsCleared (dropped : Nat)
  | statisticsReset
  | monitoringStarted
  | monitoringStopped
  | filterEnabled
  | filterDisabled
  | filterReset
  | filterUpdated (field : Filter.Field) (value : String)
  | commandStarted (keyword : Keyword)
deriving DecidableEq, Repr, Inhabited

namespace LogEvent

/-- How much the event matters. -/
def level : LogEvent → LogLevel
  | .untrackedExit _ => .trace
  | .recordEvicted _ _ => .debug
  | .commandStarted _ => .debug
  | .recordUnstored _ _ => .warn
  | _ => .info

/-- The event in words. -/
def message : LogEvent → String
  | .storeOpened _ => "process store initialized"
  | .storeClosed _ _ => "process store shut down"
  | .processCreated _ _ _ => "process created"
  | .processExited _ _ _ => "process exited"
  | .untrackedExit _ => "exit for untracked pid ignored"
  | .recordEvicted _ _ => "evicted oldest record"
  | .recordUnstored _ _ => "process record not stored, event dropped"
  | .recordsCleared _ => "all records cleared"
  | .statisticsReset => "statistics reset"
  | .monitoringStarted => "monitoring started"
  | .monitoringStopped => "monitoring stopped"
  | .filterEnabled => "filter enabled"
  | .filterDisabled => "filter disabled"
  | .filterReset => "filter reset"
  | .filterUpdated _ _ => "filter updated"
  | .commandStarted _ => "executing command"

/-- The values that go with the event, by name. -/
def fields : LogEvent → List (String × LogValue)
  | .storeOpened capacity => [("capacity", .number capacity)]
  | .storeClosed created exited => [("created", .number created), ("exited", .number exited)]
  | .processCreated pid parent name =>
      [("pid", .number pid.toNat), ("ppid", .number parent.toNat), ("comm", .text name.text)]
  | .processExited pid exitCode lifetimeSeconds =>
      [("pid", .number pid.toNat), ("exit_code", .number exitCode.toInt),
        ("lifetime_secs", .number lifetimeSeconds)]
  | .untrackedExit pid => [("pid", .number pid.toNat)]
  | .recordEvicted pid id => [("pid", .number pid.toNat), ("id", .number id)]
  | .recordUnstored pid error => [("pid", .number pid.toNat), ("error", .text error)]
  | .recordsCleared dropped => [("dropped", .number dropped)]
  | .filterUpdated field value => [("field", .text field.keyword), ("value", .text value)]
  | .commandStarted keyword => [("command", .text keyword.spelling)]
  | _ => []

end LogEvent

end ProcessWatch
