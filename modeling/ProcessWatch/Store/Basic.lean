/-
Module: ProcessWatch.Store.Basic
Purpose: The bounded store of process records, and what can be asked of it.
Trusted boundary: counters, epochs and record numbers have no upper bound
Main exports: Store, Store.Options, Store.create, Store.list, Store.listRecent,
  Store.listStartedWithin?, Store.listStartedWithin, Store.lookup?, Store.snapshot, Store.status
-/
import ProcessWatch.Index.Consistency
import ProcessWatch.Listing
import ProcessWatch.Log
import ProcessWatch.Statistics

namespace ProcessWatch

/-- A store of process records that holds at most `capacity` of them. -/
structure Store where
  capacity : Nat
  index : Index := {}
  stats : Statistics := {}
  /-- How often the statistics were reset. -/
  epoch : Nat := 0
  /-- Whether starts and exits are recorded. -/
  monitoring : Bool := true
  filter : Filter := {}
  /-- When the store was created. -/
  origin : Timestamp := 0
deriving Inhabited

/-- What an operation on a store leads to. -/
structure Outcome (α : Type) where
  value : α
  store : Store
  log : List LogEvent := []

namespace Store

/-! ## Creating -/

/-- How many records a store holds if nothing else is asked for. -/
def defaultCapacity : Nat := 1000

/-- What can be chosen about a new store. -/
structure Options where
  /-- How many records to hold; a store holds at least one. -/
  capacity : Nat := defaultCapacity
  filter : Filter := {}
  monitoring : Bool := true
deriving DecidableEq, Repr, Inhabited

/-- An empty store. -/
def create (options : Options) (now : Timestamp) : Outcome Unit :=
  let capacity := max options.capacity 1
  { value := ()
    store :=
      { capacity := capacity
        filter := options.filter
        monitoring := options.monitoring
        origin := now }
    log := [.storeOpened capacity] }

/-! ## Asking -/

/-- How many records the store holds. -/
def size (store : Store) : Nat := store.index.size

/-- The store holds no records. -/
def isEmpty (store : Store) : Bool := store.size = 0

/-- The first `limit` records that pass the filter, oldest first. -/
def list (store : Store) (limit : Nat) : Listing :=
  Listing.collect store.filter limit store.index.oldestFirst

/-- Those of the last `count` records that pass the filter, oldest first. -/
def listRecent (store : Store) (count : Nat) : Listing :=
  Listing.collect store.filter count (store.index.mostRecent count)

/-- The first `limit` records of processes that started within an interval and pass the filter, in
the order of their start.  There is no answer if the search for them is refused. -/
def listStartedWithin? (store : Store) (range : Interval Timestamp) (limit : Nat) : Option Listing :=
  (store.index.startedWithin? range).map (Listing.collect store.filter limit)

/-- The first `limit` records of processes that started within an interval and pass the filter, in
the order of their start.  The search for them is never refused. -/
def listStartedWithin (store : Store) (range : Interval Timestamp) (limit : Nat) : Listing :=
  Listing.collect store.filter limit (store.index.startedWithin range)

/-- The newest running record about a process number, whether it passes the filter or not. -/
def lookup? (store : Store) (pid : Pid) : Option Record :=
  (store.index.newestRunning? pid).map Entry.record

/-- The counters of the store as they stand. -/
def snapshot (store : Store) (now : Timestamp) : Snapshot where
  stats := store.stats
  records := store.size
  capacity := store.capacity
  monitoring := store.monitoring
  uptime := ⟨now - store.origin⟩

/-- Whether the store records, and how full it is. -/
def status (store : Store) : ControlStatus where
  monitoring := store.monitoring
  records := store.size
  capacity := store.capacity

/-- The store's ways to reach its records agree. -/
def isConsistent (store : Store) : Bool := store.index.isConsistent

end Store

end ProcessWatch
