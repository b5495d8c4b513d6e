/-
Module: ProcessWatch.Encoding.Record
Purpose: Records and listings as JSON.
Trusted boundary: none
Main exports: Usage.encode, Usage.decode?, Status.encode, Status.decode?, Record.encode,
  Record.decode?, Listing.encode, Listing.decode?
-/
import ProcessWatch.Encoding.Basic
import ProcessWatch.Listing

namespace ProcessWatch

namespace Usage

/-- A usage as an object. -/
def encode (usage : Usage) : Json :=
  .object [("cpu_time_ns", .ofNat usage.cpuTime), ("memory_bytes", .ofNat usage.memory)]

/-- The usage that a value gives. -/
def decode? (json : Json) : Option Usage := do
  match ← json.slots? ["cpu_time_ns", "memory_bytes"] with
  | [cpuTime, memory] =>
      return {
        cpuTime := ← cpuTime.required Word.decode?
        memory := ← memory.required Word.decode? }
  | _ => none

end Usage

namespace Status

/-- A status as a string. -/
def encode : Status → Json
  | .running => .string "running"
  | .exited => .string "exited"

/-- The status that a value names. -/
def decode? (json : Json) : Option Status := do
  match ← json.variantName? with
  | "running" => some .running
  | "exited" => some .exited
  | _ => none

end Status

namespace Record

/-- A record as an object. -/
def encode (record : Record) : Json :=
  .object
    [ ("id", .ofNat record.id),
      ("pid", Pid.encode record.pid),
      ("parent_pid", Pid.encode record.parent),
      ("name", record.name.encode),
      ("started_at", .ofNat record.startedAt),
      ("ended_at", .ofOption .ofNat record.endedAt),
      ("status", record.status.encode),
      ("exit_code", ExitCode.encode record.exitCode),
      ("usage", record.usage.encode) ]

/-- The record that a value gives. -/
def decode? (json : Json) : Option Record := do
  let slots ← json.slots?
    ["id", "pid", "parent_pid", "name", "started_at", "ended_at", "status", "exit_code", "usage"]
  match slots with
  | [id, pid, parent, name, startedAt, endedAt, status, exitCode, usage] =>
      return {
        id := ← id.required Word.decode?
        pid := ← pid.required Json.uint32?
        parent := ← parent.required Json.uint32?
        name := ← name.required CommandName.decode?
        startedAt := ← startedAt.required Word.decode?
        endedAt := ← endedAt.optional Word.decode?
        status := ← status.required Status.decode?
        exitCode := ← exitCode.required Json.int32?
        usage := ← usage.required Usage.decode? }
  | _ => none

end Record

namespace Listing

/-- A listing as an object. -/
def encode (listing : Listing) : Json :=
  .object
    [ ("records", .array (listing.records.map Record.encode)),
      ("truncated", .bool listing.truncated),
      ("total_matched", .ofNat listing.totalMatched) ]

/-- The listing that a value gives. -/
def decode? (json : Json) : Option Listing := do
  match ← json.slots? ["records", "truncated", "total_matched"] with
  | [records, truncated, totalMatched] =>
      return {
        records := ← records.required (Json.listOf? Record.decode?)
        truncated := ← truncated.required Json.bool?
        totalMatched := ← totalMatched.required Word.decode? }
  | _ => none

end Listing

end ProcessWatch
