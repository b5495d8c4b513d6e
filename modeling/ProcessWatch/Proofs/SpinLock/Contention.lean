/-
Module: ProcessWatch.Proofs.SpinLock.Contention
Purpose: Several threads that contend for a spin lock, one access to shared memory at a time.
Trusted boundary: accesses to shared memory come one after the other, in an order on which all threads
  agree
Main exports: Contention, Contention.Round, Contention.Move, Contention.Guard, Contention.Event,
  Contention.step, Contention.run, Contention.Acts, Contention.Worker.act_acts

A thread has rounds to make: it takes the lock, reads the value, writes it back with something added, and
gives the lock back.  At any time, also while it has the lock, it may format the lock, which takes the
lock for as long as it looks at the value.  Each step is one access: an exchange of the flag, a look at
the flag, a read or a write of the value, or the store that puts the flag down.  A schedule says which
thread makes the next step, so that the schedules together are all ways to interleave the threads.
-/
import ProcessWatch.SpinLock
import Mathlib.Logic.Function.Basic

namespace ProcessWatch

namespace SpinLock

variable {α : Type} {lock : SpinLock α}

theorem tryLock_of_free (free : lock.locked = false) :
    lock.tryLock = (true, { lock with locked := true }) := by
  simp only [tryLock, free, Bool.false_eq_true, if_false]

theorem tryLock_of_held (held : lock.locked = true) : lock.tryLock = (false, lock) := by
  simp only [tryLock, held, if_true]

end SpinLock

namespace Contention

/-- Once taking the lock, adding to the value and giving the lock back. -/
structure Round (α : Type) where
  increment : α
  /-- The round ends at once if somebody else has the lock. -/
  tries : Bool := false
deriving DecidableEq, Repr

/-- Where a thread stands in its round. -/
inductive Stage (α : Type) where
  /-- About to exchange the flag. -/
  | taking
  /-- Looking at the flag until it is down. -/
  | spinning
  /-- It has the lock. -/
  | holding
  /-- It has the lock and has read the value. -/
  | read (value : α)
  /-- It has the lock and has written the value back. -/
  | written
deriving DecidableEq, Repr

/-- A formatting that has taken the lock. -/
structure Formatting (α : Type) where
  /-- The lock as it was before. -/
  found : SpinLock α
  /-- The value, once it has been looked at. -/
  shown : Option α := none
deriving DecidableEq, Repr

/-- What a thread has yet to do. -/
structure Worker (α : Type) where
  /-- The rounds that have not ended.  The first of them is the one that `stage` is about. -/
  rounds : List (Round α)
  stage : Stage α := .taking
  formatting : Option (Formatting α) := none
deriving DecidableEq, Repr

/-- What a thread may do next. -/
inductive Move where
  /-- The next access of what it is at. -/
  | proceed
  /-- Its exchange of the flag fails, although nobody has the lock. -/
  | falter
  /-- It begins to format the lock. -/
  | format
deriving DecidableEq, Repr

/-- What there is to tell about a step. -/
inductive Event (ι α : Type) where
  /-- A round has taken the lock. -/
  | acquired (thread : ι) (round : Round α)
  /-- A round has ended without the lock, which it found and left in these states. -/
  | refused (thread : ι) (round : Round α) (found left : SpinLock α)
  /-- A formatting has ended, which found and left the lock in these states. -/
  | formatted (thread : ι) (shown : Option α) (found left : SpinLock α)
deriving DecidableEq, Repr

/-- What a step leaves of the thread that makes it, and of the lock. -/
structure Effect (ι α : Type) where
  worker : Worker α
  lock : SpinLock α
  events : List (Event ι α) := []

/-- The thread has the lock for its round. -/
def Stage.guards {α : Type} : Stage α → Bool
  | .taking => false
  | .spinning => false
  | .holding => true
  | .read _ => true
  | .written => true

namespace Worker

variable {ι α : Type}

/-- Begin to format the lock.  If somebody has it, nothing more is to be done. -/
def format (worker : Worker α) (lock : SpinLock α) (thread : ι) : Effect ι α :=
  match lock.tryLock with
  | (true, held) => { worker := { worker with formatting := some { found := lock } }, lock := held }
  | (false, left) =>
      { worker := worker, lock := left, events := [.formatted thread none lock left] }

/-- Look at the value that is to be shown, and then give the lock back. -/
def look (worker : Worker α) (lock : SpinLock α) (thread : ι) (formatting : Formatting α) :
    Effect ι α :=
  match formatting.shown with
  | none =>
      { worker := { worker with formatting := some { formatting with shown := some lock.value } }
        lock := lock }
  | some value =>
      { worker := { worker with formatting := none }
        lock := lock.unlock
        events := [.formatted thread (some value) formatting.found lock.unlock] }

/-- Fail to exchange the flag.  This befalls a thread that waits for the lock; one that only tries to
take it makes an exchange that does not fail without reason. -/
def falter (worker : Worker α) : Worker α :=
  match worker.rounds, worker.stage with
  | round :: _, .taking => if round.tries then worker else { worker with stage := .spinning }
  | _, _ => worker

/-- Make the next access of the round. -/
def proceed [Add α] (worker : Worker α) (lock : SpinLock α) (thread : ι) : Effect ι α :=
  match worker.rounds with
  | [] => { worker := worker, lock := lock }
  | round :: rest =>
      match worker.stage with
      | .taking =>
          match lock.tryLock with
          | (true, held) =>
              { worker := { worker with stage := .holding }
                lock := held
                events := [.acquired thread round] }
          | (false, left) =>
              if round.tries then
                { worker := { worker with rounds := rest }
                  lock := left
                  events := [.refused thread round lock left] }
              else
                { worker := { worker with stage := .spinning }, lock := left }
      | .spinning =>
          if lock.locked then
            { worker := worker, lock := lock }
          else
            { worker := { worker with stage := .taking }, lock := lock }
      | .holding => { worker := { worker with stage := .read lock.value }, lock := lock }
      | .read value =>
          { worker := { worker with stage := .written }
            lock := lock.write (value + round.increment) }
      | .written =>
          { worker := { worker with rounds := rest, stage := .taking }, lock := lock.unlock }

/-- What a move of the thread comes to.  A thread that formats the lock does nothing else. -/
def act [Add α] (worker : Worker α) (lock : SpinLock α) (thread : ι) (move : Move) : Effect ι α :=
  match worker.formatting, move with
  | some formatting, .proceed => worker.look lock thread formatting
  | some _, _ => { worker := worker, lock := lock }
  | none, .proceed => worker.proceed lock thread
  | none, .falter => { worker := worker.falter, lock := lock }
  | none, .format => worker.format lock thread

end Worker

/-- The right to the value, which somebody has got by taking the lock. -/
inductive Guard (ι : Type) where
  | ofRound (thread : ι)
  | ofFormatting (thread : ι)
deriving DecidableEq, Repr

/-- The thread that has the guard. -/
def Guard.thread {ι : Type} : Guard ι → ι
  | .ofRound thread => thread
  | .ofFormatting thread => thread

end Contention

/-- Threads that share a lock, and what there is to tell of them so far. -/
structure Contention (ι α : Type) where
  lock : SpinLock α
  workers : ι → Contention.Worker α
  trace : List (Contention.Event ι α) := []

namespace Contention

variable {ι α : Type}

/-- Threads with rounds to make, and a lock that nobody has. -/
def create (value : α) (programs : ι → List (Round α)) : Contention ι α where
  lock := { value := value }
  workers := fun thread => { rounds := programs thread }

/-- Somebody has this guard. -/
def Holds (threads : Contention ι α) : Guard ι → Prop
  | .ofRound thread => (threads.workers thread).stage.guards = true
  | .ofFormatting thread => (threads.workers thread).formatting.isSome = true

section Run

variable [DecidableEq ι] [Add α]

/-- Let a thread make a move. -/
def step (threads : Contention ι α) (turn : ι × Move) : Contention ι α :=
  let effect := (threads.workers turn.1).act threads.lock turn.1 turn.2
  { lock := effect.lock
    workers := Function.update threads.workers turn.1 effect.worker
    trace := threads.trace ++ effect.events }

/-- Let threads make their moves in the order of a schedule. -/
def run (threads : Contention ι α) (schedule : List (ι × Move)) : Contention ι α :=
  schedule.foldl step threads

end Run

/-! ## What a step can be -/

variable [Add α]

/-- The steps that a thread can make. -/
inductive Acts (worker : Worker α) (lock : SpinLock α) (thread : ι) : Effect ι α → Prop where
  | rests : Acts worker lock thread { worker := worker, lock := lock }
  | waits {stage : Stage α} (outside : worker.stage.guards = false)
      (stays : stage.guards = false) :
      Acts worker lock thread { worker := { worker with stage := stage }, lock := lock }
  | acquires {round : Round α} {rest : List (Round α)} (rounds : worker.rounds = round :: rest)
      (idle : worker.formatting = none) (outside : worker.stage.guards = false)
      (free : lock.locked = false) :
      Acts worker lock thread
        { worker := { worker with stage := .holding }
          lock := { lock with locked := true }
          events := [.acquired thread round] }
  | refused {round : Round α} {rest : List (Round α)} (rounds : worker.rounds = round :: rest)
      (outside : worker.stage.guards = false) (tries : round.tries = true) :
      Acts worker lock thread
        { worker := { worker with rounds := rest }
          lock := lock
          events := [.refused thread round lock lock] }
  | reads (holding : worker.stage = .holding) :
      Acts worker lock thread
        { worker := { worker with stage := .read lock.value }, lock := lock }
  | writes {round : Round α} {rest : List (Round α)} {value : α}
      (rounds : worker.rounds = round :: rest) (read : worker.stage = .read value) :
      Acts worker lock thread
        { worker := { worker with stage := .written }
          lock := lock.write (value + round.increment) }
  | releases {round : Round α} {rest : List (Round α)} (rounds : worker.rounds = round :: rest)
      (idle : worker.formatting = none) (written : worker.stage = .written) :
      Acts worker lock thread
        { worker := { worker with rounds := rest, stage := .taking }, lock := lock.unlock }
  | passes (held : lock.locked = true) :
      Acts worker lock thread
        { worker := worker, lock := lock, events := [.formatted thread none lock lock] }
  | formats (idle : worker.formatting = none) (free : lock.locked = false) :
      Acts worker lock thread
        { worker := { worker with formatting := some { found := lock } }
          lock := { lock with locked := true } }
  | looks {formatting : Formatting α} (busy : worker.formatting = some formatting) :
      Acts worker lock thread
        { worker := { worker with formatting := some { formatting with shown := some lock.value } }
          lock := lock }
  | shows {formatting : Formatting α} {value : α} (busy : worker.formatting = some formatting)
      (shown : formatting.shown = some value) :
      Acts worker lock thread
        { worker := { worker with formatting := none }
          lock := lock.unlock
          events := [.formatted thread (some value) formatting.found lock.unlock] }

namespace Worker

variable (worker : Worker α) (lock : SpinLock α) (thread : ι)

theorem falter_acts : Acts worker lock thread { worker := worker.falter, lock := lock } := by
  rw [falter]
  split
  · rename_i round rest rounds stage
    split
    · exact .rests
    · exact .waits (by rw [stage]; rfl) rfl
  · exact .rests

theorem format_acts (idle : worker.formatting = none) :
    Acts worker lock thread (worker.format lock thread) := by
  cases flag : lock.locked with
  | false =>
      rw [format, SpinLock.tryLock_of_free flag]
      exact .formats idle flag
  | true =>
      rw [format, SpinLock.tryLock_of_held flag]
      exact .passes flag

theorem look_acts {formatting : Formatting α} (busy : worker.formatting = some formatting) :
    Acts worker lock thread (worker.look lock thread formatting) := by
  rw [look]
  split
  · exact .looks busy
  · rename_i value shown
    exact .shows busy shown

theorem proceed_acts (idle : worker.formatting = none) :
    Acts worker lock thread (worker.proceed lock thread) := by
  obtain ⟨rounds, stage, formatting⟩ := worker
  cases rounds with
  | nil => exact .rests
  | cons round rest =>
      cases stage with
      | taking =>
          cases flag : lock.locked with
          | false =>
              simp only [proceed, SpinLock.tryLock_of_free flag]
              exact .acquires rfl idle rfl flag
          | true =>
              simp only [proceed, SpinLock.tryLock_of_held flag]
              split
              · rename_i tries
                exact .refused rfl rfl tries
              · exact .waits rfl rfl
      | spinning =>
          simp only [proceed]
          split
          · exact .rests
          · exact .waits rfl rfl
      | holding => exact .reads rfl
      | read value => exact .writes rfl rfl
      | written => exact .releases rfl idle rfl

/-- A move is one of the steps. -/
theorem act_acts (move : Move) : Acts worker lock thread (worker.act lock thread move) := by
  cases state : worker.formatting with
  | some formatting =>
      cases move with
      | proceed =>
          simp only [act, state]
          exact worker.look_acts lock thread state
      | falter | format =>
          simp only [act, state]
          exact .rests
  | none =>
      cases move with
      | proceed =>
          simp only [act, state]
          exact worker.proceed_acts lock thread state
      | falter =>
          simp only [act, state]
          exact worker.falter_acts lock thread
      | format =>
          simp only [act, state]
          exact worker.format_acts lock thread state

end Worker

end Contention

end ProcessWatch
