/-
Module: ProcessWatch.Filter.Basic
Purpose: The filter that chooses which records a listing shows and which processes are logged.
Trusted boundary: none
Main exports: Filter, Filter.Subject, Filter.accepts, Filter.Requirement, Filter.ofRequirements
-/
import ProcessWatch.Record

namespace ProcessWatch

/-- Requirements on a process.  A missing one asks nothing, and a filter that is not enabled asks
nothing at all. -/
structure Filter where
  enabled : Bool := false
  pid : Option Pid := none
  parent : Option Pid := none
  command : Option CommandName := none
  /-- The least lifetime of an ended process, in whole seconds. -/
  minLifetime : Option Nat := none
  /-- The greatest lifetime of an ended process, in whole seconds. -/
  maxLifetime : Option Nat := none
deriving DecidableEq, Repr, Inhabited

namespace Filter

/-- What a filter looks at in a process. -/
structure Subject where
  pid : Pid
  parent : Pid
  name : String
  /-- The lifetime in whole seconds, missing while the process runs. -/
  lifetime : Option Nat
deriving DecidableEq, Repr, Inhabited

/-- The requirement is missing or met. -/
def meets {α : Type} (test : α → Bool) (requirement : Option α) : Bool :=
  requirement.all test

/-- A lifetime lies within the filter's bounds. -/
def acceptsLifetime (filter : Filter) (lifetime : Nat) : Bool :=
  meets (· ≤ lifetime) filter.minLifetime && meets (lifetime ≤ ·) filter.maxLifetime

/-- Every requirement of the filter is met.  The bounds on the lifetime concern ended processes
only. -/
def acceptsSubject (filter : Filter) (subject : Subject) : Bool :=
  meets (· = subject.pid) filter.pid &&
    meets (· = subject.parent) filter.parent &&
    meets (·.text = subject.name) filter.command &&
    subject.lifetime.all filter.acceptsLifetime

/-- The filter lets a process pass. -/
def accepts (filter : Filter) (subject : Subject) : Bool :=
  !filter.enabled || filter.acceptsSubject subject

@[simp] theorem accepts_of_not_enabled {filter : Filter} (off : filter.enabled = false)
    (subject : Subject) : filter.accepts subject = true := by
  simp [accepts, off]

theorem accepts_of_enabled {filter : Filter} (on : filter.enabled = true) (subject : Subject) :
    filter.accepts subject = filter.acceptsSubject subject := by
  simp [accepts, on]

/-! ## Building a filter -/

/-- One step in building a filter.  Zero and the empty name are requirements like any other here. -/
inductive Requirement where
  | enabled
  | pid (pid : Pid)
  | parent (pid : Pid)
  | command (text : String)
  | minLifetime (seconds : Nat)
  | maxLifetime (seconds : Nat)
deriving DecidableEq, Repr

/-- The filter with one more requirement, in place of an earlier one of its kind. -/
def require (filter : Filter) : Requirement → Filter
  | .enabled => { filter with enabled := true }
  | .pid pid => { filter with pid := some pid }
  | .parent pid => { filter with parent := some pid }
  | .command text => { filter with command := some (CommandName.ofString text) }
  | .minLifetime seconds => { filter with minLifetime := some seconds }
  | .maxLifetime seconds => { filter with maxLifetime := some seconds }

/-- The filter built from some requirements, from first to last. -/
def ofRequirements (requirements : List Requirement) : Filter :=
  requirements.foldl require {}

end Filter

/-- What a filter looks at in a record. -/
def Record.subject (record : Record) : Filter.Subject where
  pid := record.pid
  parent := record.parent
  name := record.name.text
  lifetime := record.lifetimeSeconds?

end ProcessWatch
