/-
Module: ProcessWatch.Monitor
Purpose: A store together with the clock that it reads, as one object that answers calls.
Trusted boundary: calls come one after the other, and meet enough memory unless it is given
Main exports: Monitor, Monitor.Call, Monitor.Answer, Monitor.perform, Monitor.run
-/
import ProcessWatch.Store.Recording
import ProcessWatch.Store.Steering

namespace ProcessWatch

/-- A store and its clock. -/
structure Monitor where
  clock : Clock := {}
  store : Store
deriving Inhabited

namespace Monitor

/-- A call of a monitor. -/
inductive Call where
  | start (pid parent : Pid) (name : String)
  | exit (pid : Pid) (exitCode : ExitCode) (usage : Usage)
  | deliver (event : Event)
  | moveClock (move : Clock.Move)
  | list (limit : Nat)
  | listRecent (count : Nat)
  | listStartedWithin (range : Interval Timestamp) (limit : Nat)
  | lookup (pid : Pid)
  | isEmpty
  | size
  | snapshot
  | status
  | isConsistent
  | setMonitoring (monitoring : Bool)
  | clear
  | resetStatistics
  | shutdown
  | obey (order : Control)
  | askFilter (call : Filter.Call)
deriving DecidableEq, Repr

/-- The answer to a call. -/
inductive Answer where
  | done
  | started (id : Option RecordId)
  | time (now : Timestamp)
  | listing (result : Listing)
  | record (found : Option Record)
  | flag (value : Bool)
  | count (value : Nat)
  | snapshot (view : Snapshot)
  | status (view : ControlStatus)
  | filter (answer : Filter.Answer)
deriving DecidableEq, Repr

/-- What a call leads to. -/
structure Result where
  answer : Answer
  monitor : Monitor
  log : List LogEvent := []

/-- Ask the store without changing it. -/
def ask (monitor : Monitor) (answer : Answer) : Result :=
  ⟨answer, monitor, []⟩

/-- Take over what an operation on the store led to. -/
def adopt {α : Type} (monitor : Monitor) (outcome : Outcome α) (answer : Answer) : Result :=
  ⟨answer, { monitor with store := outcome.store }, outcome.log⟩

/-- Answer a call.  A start meets the given memory, and enough of it if none is given. -/
def perform (monitor : Monitor) (call : Call) (memory : Memory := .ample) : Result :=
  let store := monitor.store
  let now := monitor.clock.now
  match call with
  | .start pid parent name =>
      let outcome := store.start now pid parent name memory
      monitor.adopt outcome (.started outcome.value)
  | .exit pid exitCode usage => monitor.adopt (store.exit now pid exitCode usage) .done
  | .deliver event => monitor.adopt (store.deliver now event memory) .done
  | .moveClock move =>
      let clock := monitor.clock.move move
      ⟨.time clock.now, { monitor with clock := clock }, []⟩
  | .list limit => monitor.ask (.listing (store.list limit))
  | .listRecent count => monitor.ask (.listing (store.listRecent count))
  | .listStartedWithin range limit => monitor.ask (.listing (store.listStartedWithin range limit))
  | .lookup pid => monitor.ask (.record (store.lookup? pid))
  | .isEmpty => monitor.ask (.flag store.isEmpty)
  | .size => monitor.ask (.count store.size)
  | .snapshot => monitor.ask (.snapshot (store.snapshot now))
  | .status => monitor.ask (.status store.status)
  | .isConsistent => monitor.ask (.flag store.isConsistent)
  | .setMonitoring monitoring =>
      ⟨.done, { monitor with store := store.setMonitoring monitoring }, []⟩
  | .clear => monitor.adopt store.clear .done
  | .resetStatistics => monitor.adopt store.resetStatistics .done
  | .shutdown => monitor.adopt store.shutdown .done
  | .obey order => monitor.adopt (store.obey order) .done
  | .askFilter call =>
      let outcome := store.askFilter call
      monitor.adopt outcome (.filter outcome.value)

/-- Answer some calls one after the other. -/
def run (monitor : Monitor) : List Call → List Answer × Monitor × List LogEvent
  | [] => ([], monitor, [])
  | call :: calls =>
      let result := monitor.perform call
      let (answers, final, log) := result.monitor.run calls
      (result.answer :: answers, final, result.log ++ log)

/-- A monitor on a new store whose clock stands at `time`. -/
def create (options : Store.Options) (time : Timestamp) : Monitor × List LogEvent :=
  let clock : Clock := ({} : Clock).set time
  let outcome := Store.create options clock.now
  ({ clock := clock, store := outcome.store }, outcome.log)

end Monitor

end ProcessWatch
