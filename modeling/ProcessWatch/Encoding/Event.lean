/-
Module: ProcessWatch.Encoding.Event
Purpose: Events as JSON, in objects that name the kind of the event among its fields.
Trusted boundary: none
Main exports: Event.encode, Event.decode?
-/
import ProcessWatch.Encoding.Record
import ProcessWatch.Event
import ProcessWatch.Json.Keepable

namespace ProcessWatch.Event

/-- An event as an object. -/
def encode : Event → Json
  | .start pid parent name =>
      .object
        [ ("event", .string "start"),
          ("pid", Pid.encode pid),
          ("parent_pid", Pid.encode parent),
          ("name", name.encode) ]
  | .exit pid exitCode usage =>
      .object
        [ ("event", .string "exit"),
          ("pid", Pid.encode pid),
          ("exit_code", ExitCode.encode exitCode),
          ("usage", usage.encode) ]

/-- The kind of an event and the value that has its fields.  The kind stands first in an array.  It
may stand anywhere among the members of an object, once.  Everything beside it is kept until the kind
is known, also members that an event does not have. -/
def split? (json : Json) : Option (String × Json) :=
  if json.isKeepable 0 then
    match json with
    | .object members =>
        match Json.valuesOf "event" members with
        | [.string kind] => some (kind, .object (members.filter fun (name, _) => name ≠ "event"))
        | _ => none
    | .array (.string kind :: items) => some (kind, .array items)
    | _ => none
  else
    none

/-- The event of a kind whose fields a value has.  An exit need not tell what was used. -/
def ofFields? (kind : String) (fields : Json) : Option Event :=
  match kind with
  | "start" => do
      match ← fields.slots? ["pid", "parent_pid", "name"] with
      | [pid, parent, name] =>
          return .start (← pid.required Json.uint32?) (← parent.required Json.uint32?)
            (← name.required CommandName.decode?)
      | _ => none
  | "exit" => do
      match ← fields.slots? ["pid", "exit_code", "usage"] with
      | [pid, exitCode, usage] =>
          return .exit (← pid.required Json.uint32?) (← exitCode.required Json.int32?)
            (← usage.withDefault {} Usage.decode?)
      | _ => none
  | _ => none

/-- The event that a value gives. -/
def decode? (json : Json) : Option Event := do
  let (kind, fields) ← split? json
  ofFields? kind fields

end ProcessWatch.Event
