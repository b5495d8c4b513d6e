/-
Module: ProcessWatch.Control
Purpose: The orders that steer a store, and what is told of a store to whoever steers it.
Trusted boundary: none
Main exports: Control, ControlStatus
-/

namespace ProcessWatch

/-- An order to a store. -/
inductive Control where
  | start
  | stop
  | clear
  | resetStatistics
deriving DecidableEq, Repr, Inhabited

/-- The word for an order on the command line. -/
def Control.keyword : Control → String
  | .start => "start"
  | .stop => "stop"
  | .clear => "clear"
  | .resetStatistics => "reset_stats"

/-- Whether a store records, and how full it is. -/
structure ControlStatus where
  monitoring : Bool
  records : Nat
  capacity : Nat
deriving DecidableEq, Repr, Inhabited

end ProcessWatch
