/-
Module: ProcessWatch.Filter.Error
Purpose: Why a textual change of the filter is refused.
Trusted boundary: none
Main exports: FilterError, FilterError.diagnostic
-/
import ProcessWatch.Diagnostic

namespace ProcessWatch

/-- The reasons for refusing a change of the filter. -/
inductive FilterError where
  /-- The text for a numeric field is no number of the field's range. -/
  | invalidNumber (field value : String)
  /-- No field has this name. -/
  | unknownField (name : String)
  /-- A command name was to be required, and none was given. -/
  | emptyCommand
deriving DecidableEq, Repr, Inhabited

namespace FilterError

/-- The message of a refused change. -/
def message : FilterError → String
  | .invalidNumber field value =>
      "Invalid value '" ++ value ++ "' for filter '" ++ field ++
        "': expected a non-negative integer"
  | .unknownField name => "Unknown filter field: " ++ name
  | .emptyCommand => "Command name filter must not be empty"

/-- The code of a refused change. -/
def code : FilterError → String
  | .invalidNumber _ _ => "filter::invalid_number"
  | .unknownField _ => "filter::unknown_field"
  | .emptyCommand => "filter::empty_command"

/-- The hint that goes with a refused change. -/
def help : FilterError → String
  | .invalidNumber _ _ => "pid, ppid, minlife and maxlife take whole numbers."
  | .unknownField _ => "Use one of: pid, ppid, comm, minlife, maxlife."
  | .emptyCommand => "Use 'reset' to clear every predicate instead."

/-- The shown form of a refused change. -/
def diagnostic (error : FilterError) : Diagnostic where
  message := error.message
  code := some error.code
  help := some error.help

end FilterError

end ProcessWatch
