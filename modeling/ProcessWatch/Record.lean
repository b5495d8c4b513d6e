/-
Module: ProcessWatch.Record
Purpose: What is known of one observed process: who it is, when it ran, and how it ended.
Trusted boundary: none
Main exports: Pid, ExitCode, RecordId, Status, Usage, Record
-/
import ProcessWatch.Clock
import ProcessWatch.CommandName

namespace ProcessWatch

/-- The number by which the system knows a process; it is used again once the process is gone. -/
abbrev Pid := UInt32

/-- What a process reported when it ended. -/
abbrev ExitCode := Int32

/-- The number of a record, never used twice by one store. -/
abbrev RecordId := Nat

/-- Whether a process still runs. -/
inductive Status where
  | running
  | exited
deriving DecidableEq, Repr, Inhabited

/-- The word for a status in reports. -/
def Status.label : Status → String
  | .running => "RUNNING"
  | .exited => "EXITED"

/-- What a process had used when it ended. -/
structure Usage where
  /-- CPU time in nanoseconds. -/
  cpuTime : Nat := 0
  /-- Peak resident memory in bytes. -/
  memory : Nat := 0
deriving DecidableEq, Repr, Inhabited

/-- The record of one process at one moment. -/
structure Record where
  id : RecordId
  pid : Pid
  parent : Pid
  name : CommandName
  startedAt : Timestamp
  endedAt : Option Timestamp
  status : Status
  exitCode : ExitCode
  usage : Usage
deriving DecidableEq, Repr, Inhabited

namespace Record

/-- The process still runs. -/
def isRunning (record : Record) : Bool := record.status = .running

/-- How long the process lived, in nanoseconds, once it has ended. -/
def lifetimeNanos? (record : Record) : Option Nat :=
  record.endedAt.map (· - record.startedAt)

/-- How long the process lived, once it has ended. -/
def lifetime? (record : Record) : Option Duration :=
  record.lifetimeNanos?.map Duration.mk

/-- How many whole seconds the process lived, once it has ended. -/
def lifetimeSeconds? (record : Record) : Option Nat :=
  record.endedAt.map fun time => (time - record.startedAt) / nanosPerSecond

/-- How many whole seconds the process lived, zero while it runs. -/
def lifetimeSeconds (record : Record) : Nat :=
  record.lifetimeSeconds?.getD 0

/-- The record of a process that has just started. -/
def started (id : RecordId) (pid parent : Pid) (name : CommandName) (time : Timestamp) : Record where
  id := id
  pid := pid
  parent := parent
  name := name
  startedAt := time
  endedAt := none
  status := .running
  exitCode := 0
  usage := {}

/-- The record after its process has ended: only a running process ends, and never before it
started. -/
def exit? (record : Record) (time : Timestamp) (code : ExitCode) (usage : Usage) : Option Record :=
  if record.isRunning then
    some { record with
      endedAt := some (max time record.startedAt)
      status := .exited
      exitCode := code
      usage := usage }
  else
    none

end Record

end ProcessWatch
