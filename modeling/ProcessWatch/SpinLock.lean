/-
Module: ProcessWatch.SpinLock
Purpose: A value that is read and written only by the holder of its lock.
Trusted boundary: an access to the flag is one step, and all threads see these steps in one order
Main exports: SpinLock, SpinLock.tryLock, SpinLock.unlock, SpinLock.debugText
-/

namespace ProcessWatch

/-- A value and its lock. -/
structure SpinLock (α : Type) where
  value : α
  locked : Bool := false
deriving DecidableEq, Repr, Inhabited

namespace SpinLock

variable {α : Type}

/-- Take the lock if nobody holds it, and tell whether it was taken. -/
def tryLock (lock : SpinLock α) : Bool × SpinLock α :=
  if lock.locked then (false, lock) else (true, { lock with locked := true })

/-- Give the lock back. -/
def unlock (lock : SpinLock α) : SpinLock α :=
  { lock with locked := false }

/-- Write the value; only the holder of the lock does this. -/
def write (lock : SpinLock α) (value : α) : SpinLock α :=
  { lock with value := value }

/-- What is shown of a locked or unlocked value.  Whoever looks takes the lock for as long as the
look takes, and sees no value while somebody else holds it. -/
def debugText (render : α → String) (lock : SpinLock α) : String :=
  match lock.tryLock with
  | (true, held) => "SpinLock \x7b data: " ++ render held.value ++ " \x7d"
  | (false, _) => "SpinLock \x7b data: \"<locked>\" \x7d"

/-! ## One client -/

/-- A request of a client that holds the lock at most once. -/
inductive Call (α : Type) where
  | lock
  | tryLock
  | unlock
  | write (value : α)
  | read
  | debug
deriving DecidableEq, Repr

/-- The answer to a request. -/
inductive Answer (α : Type) where
  /-- The lock was taken. -/
  | locked
  /-- The client holds the lock already and would wait for itself. -/
  | wouldDeadlock
  | flag (value : Bool)
  | written
  /-- Only the holder of the lock may do this. -/
  | notHeld
  | value (value : Option α)
  | text (text : String)
deriving DecidableEq, Repr

/-- Answer a request of the only client, who holds the lock whenever it is held. -/
def perform (render : α → String) (lock : SpinLock α) : Call α → Answer α × SpinLock α
  | .lock => if lock.locked then (.wouldDeadlock, lock) else (.locked, (lock.tryLock).2)
  | .tryLock => let (taken, lock) := lock.tryLock; (.flag taken, lock)
  | .unlock => (.flag lock.locked, lock.unlock)
  | .write value => if lock.locked then (.written, lock.write value) else (.notHeld, lock)
  | .read => (.value (if lock.locked then some lock.value else none), lock)
  | .debug => (.text (lock.debugText render), lock)

end SpinLock

end ProcessWatch
