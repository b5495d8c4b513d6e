/-
Module: ProcessWatch.Store.Recording
Purpose: Recording starts and exits in a store.
Trusted boundary: there is memory unless an argument tells otherwise, and the second step of recording is
  not interrupted
Main exports: Store.start, Store.exit, Store.deliver, Store.commitStart, Store.commitExit

A start needs memory for its record.  What the memory has to say is an argument of the functions here;
unless it is given, there is enough.  An index is created with room for all records of a full store, so
that a store whose containers keep that room never hears anything else.

Recording an event is two steps.  The first looks whether the store records at all.  The second
looks again, and then changes records and counters together; nothing else happens to the store
while it does.  What is logged is decided after that, with the filter then in force.
-/
import ProcessWatch.Diagnostic
import ProcessWatch.Event
import ProcessWatch.Store.Basic

namespace ProcessWatch

/-- What the second step of recording a start did. -/
inductive StartResult where
  /-- The store does not record. -/
  | rejected
  /-- There is no memory for a record about this process number. -/
  | unstored (pid : Pid) (shortage : String)
  | added (record : Record) (evicted : Option Record)
deriving DecidableEq, Repr

/-- The number of the record that was added. -/
def StartResult.id? : StartResult → Option RecordId
  | .rejected => none
  | .unstored _ _ => none
  | .added record _ => some record.id

/-- What the second step of recording an exit did. -/
inductive ExitResult where
  /-- The store does not record. -/
  | rejected
  /-- No running record is about this process number. -/
  | untracked
  | retired (record : Record)
deriving DecidableEq, Repr

namespace Store

/-! ## Starts -/

/-- Remove the oldest record if the store is full. -/
def makeRoom (store : Store) : Option Record × Store :=
  if store.capacity ≤ store.size then
    let (evicted, index) := store.index.evictOldest
    (evicted.map Entry.record, { store with index := index })
  else
    (none, store)

/-- Add a record for a start, unless the store does not record or there is no memory for it.  Room is
made before memory is asked for, so that the oldest record of a full store is gone in either case. -/
def commitStart (store : Store) (now : Timestamp) (pid parent : Pid) (name : CommandName)
    (memory : Memory := .ample) : StartResult × Store :=
  if store.monitoring then
    let (evicted, store) := store.makeRoom
    match store.index.shortage? memory store.capacity with
    | some shortage => (.unstored pid shortage, store)
    | none =>
        let (record, index) := store.index.insert pid parent name now store.epoch
        (.added record evicted, { store with index := index, stats := store.stats.onStart })
  else
    (.rejected, store)

/-- What is logged of a start.  One that finds no memory tells of no record that made room for it. -/
def startLog (store : Store) : StartResult → List LogEvent
  | .rejected => []
  | .unstored pid shortage =>
      [.recordUnstored pid (MonitorError.allocationFailed shortage).diagnostic.message]
  | .added record evicted =>
      (evicted.map fun old => LogEvent.recordEvicted old.pid old.id).toList ++
        if store.filter.accepts record.subject then
          [.processCreated record.pid record.parent record.name]
        else
          []

/-- Record a start, and give the number of the record if there is one. -/
def start (store : Store) (now : Timestamp) (pid parent : Pid) (name : String)
    (memory : Memory := .ample) : Outcome (Option RecordId) :=
  if store.monitoring then
    let (result, store) := store.commitStart now pid parent (CommandName.ofString name) memory
    ⟨result.id?, store, store.startLog result⟩
  else
    ⟨none, store, []⟩

/-! ## Exits -/

/-- Count an exit if the start of its record counts, too: a record from before the last reset of
the statistics is not counted. -/
def countExit (store : Store) (entry : Entry) (record : Record) (usage : Usage) : Statistics :=
  if entry.epoch = store.epoch then
    store.stats.onExit (record.lifetimeNanos?.getD 0) usage
  else
    store.stats

/-- Mark the newest running record about a process number as ended, unless the store does not
record. -/
def commitExit (store : Store) (now : Timestamp) (pid : Pid) (exitCode : ExitCode)
    (usage : Usage) : ExitResult × Store :=
  if store.monitoring then
    match store.index.detachNewest pid with
    | none => (.untracked, store)
    | some (entry, index) =>
        match entry.record.exit? now exitCode usage with
        | none => (.untracked, { store with index := index })
        | some record =>
            (.retired record,
              { store with
                index := index.replace { entry with record := record }
                stats := store.countExit entry record usage })
  else
    (.rejected, store)

/-- What is logged of an exit. -/
def exitLog (store : Store) (pid : Pid) : ExitResult → List LogEvent
  | .rejected => []
  | .untracked => [.untrackedExit pid]
  | .retired record =>
      if store.filter.accepts record.subject then
        [.processExited record.pid record.exitCode record.lifetimeSeconds]
      else
        []

/-- Record an exit.  An exit of a process without a running record is passed over. -/
def exit (store : Store) (now : Timestamp) (pid : Pid) (exitCode : ExitCode)
    (usage : Usage := {}) : Outcome Unit :=
  if store.monitoring then
    let (result, store) := store.commitExit now pid exitCode usage
    ⟨(), store, store.exitLog pid result⟩
  else
    ⟨(), store, []⟩

/-! ## Events -/

/-- Record an event. -/
def deliver (store : Store) (now : Timestamp) (event : Event) (memory : Memory := .ample) :
    Outcome Unit :=
  match event with
  | .start pid parent name =>
      let outcome := store.start now pid parent name.text memory
      ⟨(), outcome.store, outcome.log⟩
  | .exit pid exitCode usage => store.exit now pid exitCode usage

end Store

end ProcessWatch
