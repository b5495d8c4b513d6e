/-
Module: ProcessWatch.Event
Purpose: News of a process, on its way to a store.
Trusted boundary: none
Main exports: Event
-/
import ProcessWatch.Record

namespace ProcessWatch

/-- A process has started or ended. -/
inductive Event where
  | start (pid parent : Pid) (name : CommandName)
  | exit (pid : Pid) (exitCode : ExitCode) (usage : Usage)
deriving DecidableEq, Repr, Inhabited

end ProcessWatch
