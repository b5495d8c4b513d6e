/-
Module: ProcessWatch.Proofs.Threads.Basic
Purpose: Several threads that make calls of one monitor at the same time, step by step.
Trusted boundary: the steps of threads come one after the other, in an order on which all threads agree;
  calls meet enough memory, for which Proofs.Roster.Memory gives a condition
Main exports: Threads, Threads.Call, Threads.Event, Threads.Completion, Threads.step, Threads.run,
  Threads.step_cases

A start or an exit is two steps: a look at whether the store records, and a section under the lock
that looks again.  Every other call is one section under the lock.  A schedule says which thread makes
the next step, so that the schedules together are all ways to interleave the threads.  Time passes by
calls that move the clock, which a thread of its own may make.
-/
import ProcessWatch.Proofs.Monitor.Change
import Mathlib.Logic.Function.Basic

namespace ProcessWatch

namespace Threads

/-- A call that threads may make at the same time. -/
inductive Call where
  | start (pid parent : Pid) (name : String)
  | exit (pid : Pid) (code : ExitCode) (usage : Usage)
  | setMonitoring (monitoring : Bool)
  | clear
  | resetStatistics
  | size
  | lookup (pid : Pid)
  | moveClock (move : Clock.Move)
deriving DecidableEq, Repr

namespace Call

/-- The same call, made while nobody else makes one. -/
def alone : Call → Monitor.Call
  | .start pid parent name => .start pid parent name
  | .exit pid code usage => .exit pid code usage
  | .setMonitoring monitoring => .setMonitoring monitoring
  | .clear => .clear
  | .resetStatistics => .resetStatistics
  | .size => .size
  | .lookup pid => .lookup pid
  | .moveClock move => .moveClock move

/-- The call reports a start or an exit, and looks whether the store records before it takes the
lock. -/
def isReport : Call → Bool
  | .start _ _ _ => true
  | .exit _ _ _ => true
  | _ => false

/-- What a report returns if the store does not record when it first looks. -/
def refusal : Call → Monitor.Answer
  | .start _ _ _ => .started none
  | _ => .done

/-- What a call does under the lock, and what it returns. -/
def underLock (monitor : Monitor) : Call → Monitor.Answer × Monitor
  | .start pid parent name =>
      let (result, store) :=
        monitor.store.commitStart monitor.clock.now pid parent (CommandName.ofString name)
      (.started result.id?, { monitor with store := store })
  | .exit pid code usage =>
      let (_, store) := monitor.store.commitExit monitor.clock.now pid code usage
      (.done, { monitor with store := store })
  | .setMonitoring monitoring =>
      (.done, { monitor with store := monitor.store.setMonitoring monitoring })
  | .clear => (.done, { monitor with store := monitor.store.clear.store })
  | .resetStatistics => (.done, { monitor with store := monitor.store.resetStatistics.store })
  | .size => (.count monitor.store.size, monitor)
  | .lookup pid => (.record (monitor.store.lookup? pid), monitor)
  | .moveClock move =>
      let clock := monitor.clock.move move
      (.time clock.now, { monitor with clock := clock })

end Call

/-- Which call is meant: the thread that makes it, and how many it has made before. -/
structure CallId (ι : Type) where
  thread : ι
  number : Nat
deriving DecidableEq, Repr

/-- One step of a thread. -/
structure Event (ι : Type) where
  id : CallId ι
  call : Call
  /-- It is the first step of the call. -/
  begins : Bool
  /-- What the call returns, if it is the last step of the call. -/
  answer : Option Monitor.Answer
deriving DecidableEq, Repr

/-- A call that has returned. -/
structure Completion (ι : Type) where
  id : CallId ι
  call : Call
  answer : Monitor.Answer
deriving DecidableEq, Repr

/-- The call that returns with a step. -/
def Event.completion? {ι : Type} (event : Event ι) : Option (Completion ι) :=
  event.answer.map fun answer => ⟨event.id, event.call, answer⟩

/-- Where a thread stands. -/
structure Worker where
  /-- The calls that have not returned yet. -/
  calls : List Call
  /-- The first of them has found that the store records, and is about to take the lock. -/
  admitted : Bool := false
  /-- How many calls have returned. -/
  returned : Nat := 0

end Threads

/-- Threads that share a monitor, and what they have done so far. -/
structure Threads (ι : Type) where
  monitor : Monitor
  workers : ι → Threads.Worker
  trace : List (Threads.Event ι) := []

namespace Threads

variable {ι : Type}

/-- Threads that have not done anything yet. -/
def create (monitor : Monitor) (programs : ι → List Call) : Threads ι where
  monitor := monitor
  workers := fun thread => { calls := programs thread }

/-- All calls that have returned, in the order in which they did. -/
def completions (threads : Threads ι) : List (Completion ι) :=
  threads.trace.filterMap Event.completion?

variable [DecidableEq ι]

/-- A report has found that the store records. -/
def letThrough (threads : Threads ι) (thread : ι) (call : Call) : Threads ι :=
  let worker := threads.workers thread
  { threads with
    workers := Function.update threads.workers thread { worker with admitted := true }
    trace := threads.trace ++ [⟨⟨thread, worker.returned⟩, call, true, none⟩] }

/-- A call returns and leaves the monitor in a new state. -/
def complete (threads : Threads ι) (thread : ι) (call : Call) (calls : List Call)
    (answer : Monitor.Answer) (monitor : Monitor) : Threads ι :=
  let worker := threads.workers thread
  { monitor := monitor
    workers := Function.update threads.workers thread
      { calls := calls, admitted := false, returned := worker.returned + 1 }
    trace := threads.trace ++
      [⟨⟨thread, worker.returned⟩, call, !worker.admitted, some answer⟩] }

/-- Let a thread make its next step. -/
def step (threads : Threads ι) (thread : ι) : Threads ι :=
  let worker := threads.workers thread
  match worker.calls with
  | [] => threads
  | call :: calls =>
      if call.isReport ∧ worker.admitted = false then
        if threads.monitor.store.monitoring then
          threads.letThrough thread call
        else
          threads.complete thread call calls call.refusal threads.monitor
      else
        let (answer, monitor) := call.underLock threads.monitor
        threads.complete thread call calls answer monitor

/-- Let threads make their steps in the order of a schedule. -/
def run (threads : Threads ι) (schedule : List ι) : Threads ι :=
  schedule.foldl step threads

/-! ## The last step of a call is the whole call -/

/-- The section under the lock does what the call does alone: whether the store records is looked at
again. -/
theorem Call.underLock_eq (monitor : Monitor) (call : Call) :
    call.underLock monitor =
      ((monitor.perform call.alone).answer, (monitor.perform call.alone).monitor) := by
  cases call with
  | start pid parent name =>
      apply Prod.ext
      · exact congrArg Monitor.Answer.started (Monitor.start_value _ _ _ _ _).symm
      · exact congrArg (Monitor.mk monitor.clock) (Monitor.start_store _ _ _ _ _).symm
  | exit pid code usage =>
      apply Prod.ext
      · rfl
      · exact congrArg (Monitor.mk monitor.clock) (Monitor.exit_store _ _ _ _ _).symm
  | _ => rfl

/-- A report to a store that does not record does nothing, alone as among others. -/
theorem Call.refusal_eq {monitor : Monitor} {call : Call} (report : call.isReport = true)
    (paused : monitor.store.monitoring = false) :
    (call.refusal, monitor) =
      ((monitor.perform call.alone).answer, (monitor.perform call.alone).monitor) := by
  cases call with
  | start pid parent name =>
      have nothing : monitor.store.start monitor.clock.now pid parent name =
          ⟨none, monitor.store, []⟩ := by
        rw [Store.start, if_neg (by simp [paused])]
      simp only [alone, Monitor.perform, Monitor.adopt, nothing]
      rfl
  | exit pid code usage =>
      have nothing : monitor.store.exit monitor.clock.now pid code usage =
          ⟨(), monitor.store, []⟩ := by
        rw [Store.exit, if_neg (by simp [paused])]
      simp only [alone, Monitor.perform, Monitor.adopt, nothing]
      rfl
  | _ => cases report

/-- A thread that makes a step has nothing left to do, or finds that the store records, or lets its
call return with what the call does alone at this moment. -/
theorem step_cases (threads : Threads ι) (thread : ι) :
    ((threads.workers thread).calls = [] ∧ threads.step thread = threads) ∨
      ∃ call calls, (threads.workers thread).calls = call :: calls ∧
        ((call.isReport = true ∧ (threads.workers thread).admitted = false ∧
            threads.monitor.store.monitoring = true ∧
            threads.step thread = threads.letThrough thread call) ∨
          threads.step thread = threads.complete thread call calls
            (threads.monitor.perform call.alone).answer
            (threads.monitor.perform call.alone).monitor) := by
  cases left : (threads.workers thread).calls with
  | nil =>
      left
      refine ⟨rfl, ?_⟩
      simp only [step, left]
  | cons call calls =>
      right
      refine ⟨call, calls, rfl, ?_⟩
      by_cases looks : call.isReport = true ∧ (threads.workers thread).admitted = false
      · cases recording : threads.monitor.store.monitoring with
        | true =>
            left
            refine ⟨looks.1, looks.2, rfl, ?_⟩
            simp only [step, left, if_pos looks, recording, if_true]
        | false =>
            right
            have refused := Call.refusal_eq looks.1 recording
            simp only [Prod.mk.injEq] at refused
            simp only [step, left, if_pos looks, recording, Bool.false_eq_true, if_false]
            rw [← refused.1, ← refused.2]
      · right
        simp only [step, left, if_neg looks, Call.underLock_eq]

end Threads

end ProcessWatch
