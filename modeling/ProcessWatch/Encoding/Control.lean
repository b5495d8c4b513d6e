/-
Module: ProcessWatch.Encoding.Control
Purpose: Orders, control states and settings as JSON.
Trusted boundary: none
Main exports: Control.encode, Control.decode?, ControlStatus.encode, ControlStatus.decode?,
  Settings.encode, Settings.decode?
-/
import ProcessWatch.Encoding.Basic
import ProcessWatch.Settings

namespace ProcessWatch

namespace Control

/-- The name of an order in data. -/
def dataName : Control → String
  | .start => "start"
  | .stop => "stop"
  | .clear => "clear"
  | .resetStatistics => "reset_statistics"

/-- An order as a string. -/
def encode (order : Control) : Json := .string order.dataName

/-- The order that a value names. -/
def decode? (json : Json) : Option Control := do
  match ← json.variantName? with
  | "start" => some .start
  | "stop" => some .stop
  | "clear" => some .clear
  | "reset_statistics" => some .resetStatistics
  | _ => none

end Control

namespace ControlStatus

/-- A control state as an object. -/
def encode (status : ControlStatus) : Json :=
  .object
    [ ("monitoring_enabled", .bool status.monitoring),
      ("records", .ofNat status.records),
      ("capacity", .ofNat status.capacity) ]

/-- The control state that a value gives. -/
def decode? (json : Json) : Option ControlStatus := do
  match ← json.slots? ["monitoring_enabled", "records", "capacity"] with
  | [monitoring, records, capacity] =>
      return {
        monitoring := ← monitoring.required Json.bool?
        records := ← records.required Word.decode?
        capacity := ← capacity.required Word.decode? }
  | _ => none

end ControlStatus

namespace Settings

/-- Settings as an object. -/
def encode (settings : Settings) : Json :=
  .object
    [ ("capacity", .ofNat settings.capacity),
      ("list_limit", .ofNat settings.listLimit),
      ("trace_json", .bool settings.traceJson) ]

/-- The settings that a value gives; those that it does not have keep their defaults. -/
def decode? (json : Json) : Option Settings := do
  let defaults : Settings := {}
  match ← json.slots? ["capacity", "list_limit", "trace_json"] with
  | [capacity, listLimit, traceJson] =>
      return {
        capacity := ← capacity.withDefault defaults.capacity Word.decode?
        listLimit := ← listLimit.withDefault defaults.listLimit Word.decode?
        traceJson := ← traceJson.withDefault defaults.traceJson Json.bool? }
  | _ => none

end Settings

end ProcessWatch
