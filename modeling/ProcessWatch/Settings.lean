/-
Module: ProcessWatch.Settings
Purpose: What can be chosen about a monitor from outside, and the variables that choose it.
Trusted boundary: none
Main exports: Settings, Settings.ofEnvironment, Settings.validate
-/
import ProcessWatch.Diagnostic
import ProcessWatch.Store.Basic

namespace ProcessWatch

/-! ## Settings -/

/-- What can be chosen about a monitor. -/
structure Settings where
  /-- How many records to hold. -/
  capacity : Nat := Store.defaultCapacity
  /-- How many records to list if nothing else is asked for. -/
  listLimit : Nat := Listing.defaultLimit
  /-- Whether to log as data instead of text. -/
  traceJson : Bool := false
deriving DecidableEq, Repr, Inhabited

namespace Settings

/-- The variables that hold numbers. -/
inductive Variable where
  | capacity
  | listLimit
deriving DecidableEq, Repr, Inhabited

/-- The name of a variable that holds a number. -/
def Variable.name : Variable → String
  | .capacity => "PROCMON_CAPACITY"
  | .listLimit => "PROCMON_LIST_LIMIT"

/-- The name of the variable that chooses how to log. -/
def traceVariable : String := "PROCMON_TRACE_JSON"

/-- What is wrong with the settings. -/
inductive Fault where
  | notNumber (source : Variable) (text : String)
  | zeroCapacity
  | zeroListLimit
deriving DecidableEq, Repr, Inhabited

/-- What is wrong with the settings, in words. -/
def Fault.reason : Fault → String
  | .notNumber source text => source.name ++ "=" ++ text ++ " is not a valid number"
  | .zeroCapacity => "capacity must be at least 1"
  | .zeroListLimit => "list limit must be at least 1"

/-- The error that a fault in the settings is. -/
def Fault.error (fault : Fault) : MonitorError :=
  .invalidSettings fault.reason

/-- Both numbers are at least one. -/
def validate (settings : Settings) : Except Fault Unit :=
  if settings.capacity = 0 then .error .zeroCapacity
  else if settings.listLimit = 0 then .error .zeroListLimit
  else .ok ()

/-- The number in a variable, or the default if it is not set. -/
def number (lookup : String → Option String) (source : Variable) (default : Nat) :
    Except Fault Nat :=
  match lookup source.name with
  | none => .ok default
  | some text =>
      match Text.readNatural? Word.size (Text.trim text) with
      | some value => .ok value
      | none => .error (.notNumber source text)

/-- The text says yes: it is `1`, or `true` in any mixture of cases. -/
def saysYes (text : String) : Bool :=
  let word := (Text.trim text).toList
  word = ['1'] || word.map Char.toLower = ['t', 'r', 'u', 'e']

/-- The settings that some variables choose. -/
def ofEnvironment (lookup : String → Option String) : Except Fault Settings := do
  let defaults : Settings := {}
  let capacity ← number lookup .capacity defaults.capacity
  let listLimit ← number lookup .listLimit defaults.listLimit
  let settings : Settings :=
    { capacity := capacity
      listLimit := listLimit
      traceJson := ((lookup traceVariable).map saysYes).getD defaults.traceJson }
  settings.validate
  return settings

/-- What the settings choose about the store. -/
def storeOptions (settings : Settings) : Store.Options :=
  { capacity := settings.capacity }

end Settings

end ProcessWatch
