/-
Module: ProcessWatch.Diagnostic
Purpose: What is shown of an error: a message, and where there are any a code and a hint.
Trusted boundary: none
Main exports: Diagnostic, MonitorError, MonitorError.diagnostic
-/

namespace ProcessWatch

/-- The shown form of an error. -/
structure Diagnostic where
  message : String
  code : Option String := none
  help : Option String := none
deriving DecidableEq, Repr, Inhabited

/-- The reasons why a monitor cannot do its work. -/
inductive MonitorError where
  /-- There is no memory for a record. -/
  | allocationFailed (reason : String)
  /-- The settings make no sense. -/
  | invalidSettings (reason : String)
deriving DecidableEq, Repr, Inhabited

/-- The shown form of an error of a monitor. -/
def MonitorError.diagnostic : MonitorError → Diagnostic
  | .allocationFailed reason =>
      ⟨"Record allocation failed: " ++ reason, some "monitor::allocation_failed",
        some "The event was dropped. System may be low on memory."⟩
  | .invalidSettings reason =>
      ⟨"Invalid configuration: " ++ reason, some "monitor::invalid_config",
        some "Check PROCMON_* environment variables."⟩

end ProcessWatch
