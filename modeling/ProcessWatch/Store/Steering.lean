/-
Module: ProcessWatch.Store.Steering
Purpose: Steering a store: letting it record or not, emptying it, resetting its counters, closing
  it, and changing its filter.
Trusted boundary: none
Main exports: Store.setMonitoring, Store.clear, Store.resetStatistics, Store.shutdown,
  Store.obey, Store.askFilter
-/
import ProcessWatch.Filter.Call
import ProcessWatch.Store.Basic

namespace ProcessWatch.Store

/-- Let the store record or not. -/
def setMonitoring (store : Store) (monitoring : Bool) : Store :=
  { store with monitoring := monitoring }

/-- Drop every record.  The counters stay. -/
def clear (store : Store) : Outcome Unit :=
  ⟨(), { store with index := store.index.clear }, [.recordsCleared store.size]⟩

/-- Set the counters to zero.  The records stay, but their exits are no longer counted. -/
def resetStatistics (store : Store) : Outcome Unit :=
  ⟨(), { store with stats := {}, epoch := store.epoch + 1 }, [.statisticsReset]⟩

/-- Drop every record for good and log the last counters. -/
def shutdown (store : Store) : Outcome Unit :=
  ⟨(), { store with index := store.index.clear },
    [.storeClosed store.stats.created store.stats.exited]⟩

/-- Carry out an order. -/
def obey (store : Store) : Control → Outcome Unit
  | .start => ⟨(), store.setMonitoring true, [.monitoringStarted]⟩
  | .stop => ⟨(), store.setMonitoring false, [.monitoringStopped]⟩
  | .clear => store.clear
  | .resetStatistics => store.resetStatistics

/-- Pass a request to the store's filter. -/
def askFilter (store : Store) (call : Filter.Call) : Outcome Filter.Answer :=
  let outcome := store.filter.perform call
  ⟨outcome.answer, { store with filter := outcome.filter }, outcome.log⟩

end ProcessWatch.Store
