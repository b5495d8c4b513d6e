/-
Module: ProcessWatch.Encoding.Filter
Purpose: Filters, their fields and their errors as JSON.
Trusted boundary: none
Main exports: Filter.encode, Filter.decode?, Filter.Field.encode, Filter.Field.decode?,
  FilterError.encode, FilterError.decode?
-/
import ProcessWatch.Encoding.Basic
import ProcessWatch.Filter.Field
import ProcessWatch.Json.Keepable

namespace ProcessWatch

namespace Filter

/-- A filter as an object. -/
def encode (filter : Filter) : Json :=
  .object
    [ ("enabled", .bool filter.enabled),
      ("pid", .ofOption Pid.encode filter.pid),
      ("parent_pid", .ofOption Pid.encode filter.parent),
      ("command", .ofOption CommandName.encode filter.command),
      ("min_lifetime_secs", .ofOption .ofNat filter.minLifetime),
      ("max_lifetime_secs", .ofOption .ofNat filter.maxLifetime) ]

/-- The filter that a value gives. -/
def decode? (json : Json) : Option Filter := do
  let slots ← json.slots?
    ["enabled", "pid", "parent_pid", "command", "min_lifetime_secs", "max_lifetime_secs"]
  match slots with
  | [enabled, pid, parent, command, minLifetime, maxLifetime] =>
      return {
        enabled := ← enabled.required Json.bool?
        pid := ← pid.optional Json.uint32?
        parent := ← parent.optional Json.uint32?
        command := ← command.optional CommandName.decode?
        minLifetime := ← minLifetime.optional Word.decode?
        maxLifetime := ← maxLifetime.optional Word.decode? }
  | _ => none

/-- The name of a field in data. -/
def Field.dataName : Field → String
  | .pid => "pid"
  | .parent => "parent_pid"
  | .command => "command"
  | .minLifetime => "min_lifetime"
  | .maxLifetime => "max_lifetime"

/-- A field as a string. -/
def Field.encode (field : Field) : Json := .string field.dataName

/-- The field that a value names. -/
def Field.decode? (json : Json) : Option Field := do
  match ← json.variantName? with
  | "pid" => some .pid
  | "parent_pid" => some .parent
  | "command" => some .command
  | "min_lifetime" => some .minLifetime
  | "max_lifetime" => some .maxLifetime
  | _ => none

end Filter

namespace FilterError

/-- A refused change as an object of a type and, where there are any, details. -/
def encode : FilterError → Json
  | .invalidNumber field value =>
      .object
        [ ("error_type", .string "invalid_number"),
          ("details", .object [("field", .string field), ("value", .string value)]) ]
  | .unknownField name =>
      .object [("error_type", .string "unknown_field"), ("details", .string name)]
  | .emptyCommand => .object [("error_type", .string "empty_command")]

/-- The refused change of a type that details give. -/
def ofDetails? (type : String) (details : Json.Slot) : Option FilterError :=
  match type with
  | "invalid_number" => do
      match ← Json.memberSlots? ["field", "value"] (← details.required Json.members?) with
      | [field, value] =>
          return .invalidNumber (← field.required Json.text?) (← value.required Json.text?)
      | _ => none
  | "unknown_field" => do return .unknownField (← details.required Json.text?)
  | "empty_command" =>
      match details with
      | .given .null => some .emptyCommand
      | .absent => some .emptyCommand
      | _ => none
  | _ => none

/-- No details stand ahead of the type among some members, or they can be kept until it is known. -/
def isReadable (members : List (String × Json)) : Bool :=
  let ahead := members.takeWhile fun (name, _) => name ≠ "error_type"
  (Json.valuesOf "details" ahead).all (Json.isKeepable 1)

/-- The type of a refused change and what the value has for its details.  An array has both in this
order, and its type is a string. -/
def split? : Json → Option (String × Json.Slot)
  | .array [.string type, details] => some (type, .given details)
  | .object members => do
      match ← Json.memberSlots? ["error_type", "details"] members with
      | [type, details] =>
          if isReadable members then
            return (← type.required Json.variantName?, details)
          else
            none
      | _ => none
  | _ => none

/-- The refused change that a value gives. -/
def decode? (json : Json) : Option FilterError := do
  let (type, details) ← split? json
  ofDetails? type details

end FilterError

end ProcessWatch
