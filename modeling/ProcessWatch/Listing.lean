/-
Module: ProcessWatch.Listing
Purpose: What a query for several records returns.
Trusted boundary: none
Main exports: Entry.subject, Listing, Listing.collect, Listing.defaultLimit
-/
import ProcessWatch.Filter.Basic
import ProcessWatch.Index.Basic

namespace ProcessWatch

/-- What a filter looks at in an entry of a store, before anything is shown of it. -/
def Entry.subject (entry : Entry) : Filter.Subject where
  pid := entry.record.pid
  parent := entry.record.parent
  name := entry.record.name.text
  lifetime := entry.record.lifetimeNanos?.map (· / nanosPerSecond)

/-- A filter sees the same in an entry as in the record that is shown of it. -/
theorem Entry.subject_eq (entry : Entry) : entry.subject = entry.record.subject := by
  simp only [Entry.subject, Record.subject, Record.lifetimeSeconds?, Record.lifetimeNanos?,
    Option.map_map, Function.comp_def]

/-- The records that a query returns, out of those that match it. -/
structure Listing where
  records : List Record := []
  /-- More records match than are returned. -/
  truncated : Bool := false
  totalMatched : Nat := 0
deriving DecidableEq, Repr, Inhabited

namespace Listing

/-- How many records a listing returns if nothing else is asked for. -/
def defaultLimit : Nat := 50

/-- The first `limit` of the entries that the filter lets pass. -/
def collect (filter : Filter) (limit : Nat) (entries : List Entry) : Listing :=
  let matching := entries.filter fun entry => filter.accepts entry.subject
  let records := (matching.take limit).map Entry.record
  { records := records
    truncated := records.length < matching.length
    totalMatched := matching.length }

/-- To choose among the entries is to choose among the records that they show. -/
theorem collect_eq (filter : Filter) (limit : Nat) (entries : List Entry) :
    collect filter limit entries =
      let matching := (entries.map Entry.record).filter fun record => filter.accepts record.subject
      { records := matching.take limit
        truncated := (matching.take limit).length < matching.length
        totalMatched := matching.length } := by
  simp only [collect, Entry.subject_eq, List.filter_map, Function.comp_def, List.map_take,
    List.length_map, List.length_take]

end Listing

end ProcessWatch
