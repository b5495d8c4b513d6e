/-
Module: ProcessWatch.Proofs.Roster.Held
Purpose: Which records a monitor holds, that its answers show no others, and that a record which is
  gone does not come back.
Trusted boundary: none
Main exports: Monitor.held, Monitor.Answer.records, Monitor.held_of_mem_answer,
  Roster.not_mem_ids_after
-/
import ProcessWatch.Proofs.Roster.Running

namespace ProcessWatch

namespace Monitor

/-- The records that a monitor holds, in the order in which they came. -/
def held (monitor : Monitor) : List Record := monitor.store.index.records

/-- The records that an answer shows. -/
def Answer.records : Answer → List Record
  | .listing result => result.records
  | .record found => found.toList
  | _ => []

end Monitor

/-! ## Answers -/

theorem Listing.mem_of_mem_collect {filter : Filter} {limit : Nat} {entries : List Entry}
    {record : Record} (member : record ∈ (collect filter limit entries).records) :
    record ∈ entries.map Entry.record := by
  rw [collect_eq] at member
  exact List.mem_of_mem_filter (List.mem_of_mem_take member)

namespace Index.Coherent

variable {index : Index}

theorem mem_records_of_find? (coherent : index.Coherent) {id : RecordId} {entry : Entry}
    (found : index.arena[id]? = some entry) : entry.record ∈ index.records := by
  have there : id ∈ index.arena := Std.TreeMap.mem_iff_isSome_getElem?.mpr (by simp [found])
  have listed : entry ∈ index.oldestFirst :=
    List.mem_filterMap.mpr ⟨id, (coherent.held id).mp there, found⟩
  exact List.mem_map_of_mem listed

theorem mem_records_of_mem_entries (coherent : index.Coherent) {ids : List RecordId}
    {record : Record} (member : record ∈ (index.entries ids).map Entry.record) :
    record ∈ index.records := by
  obtain ⟨entry, inside, rfl⟩ := List.mem_map.mp member
  obtain ⟨id, -, found⟩ := List.mem_filterMap.mp inside
  exact coherent.mem_records_of_find? found

/-- What started within an interval is held, however high its number is. -/
theorem mem_records_of_mem_startedWithin (coherent : index.Coherent) {range : Interval Timestamp}
    {record : Record} (member : record ∈ (index.startedWithin range).map Entry.record) :
    record ∈ index.records := by
  obtain ⟨keys, searched⟩ := Option.isSome_iff_exists.mp (index.byStart.isSome_within? range)
  rw [startedWithin_eq searched] at member
  exact coherent.mem_records_of_mem_entries member

end Index.Coherent

namespace Monitor

/-- An answer shows records as they are held, whatever was asked. -/
theorem held_of_mem_answer {monitor : Monitor} (coherent : monitor.store.index.Coherent)
    (call : Call) {record : Record} (member : record ∈ (monitor.perform call).answer.records) :
    record ∈ monitor.held := by
  cases call with
  | list limit => exact Listing.mem_of_mem_collect member
  | listRecent count => exact coherent.mem_records_of_mem_entries (Listing.mem_of_mem_collect member)
  | listStartedWithin range limit =>
      exact coherent.mem_records_of_mem_startedWithin (Listing.mem_of_mem_collect member)
  | lookup pid =>
      have found : monitor.store.lookup? pid = some record := Option.mem_toList.mp member
      obtain ⟨entry, newest, rfl⟩ := Option.map_eq_some_iff.mp found
      obtain ⟨id, -, there⟩ := Option.bind_eq_some_iff.mp newest
      exact coherent.mem_records_of_find? there
  | _ => cases member

end Monitor

/-! ## Numbers along calls -/

namespace Roster

variable {roster : Roster}

theorem nextId_le_after (roster : Roster) (calls : List Monitor.Call) :
    roster.nextId ≤ (roster.after calls).nextId := by
  induction calls generalizing roster with
  | nil => exact Nat.le_refl _
  | cons call calls inductionHypothesis =>
      rw [after_cons]
      exact Nat.le_trans (roster.nextId_le_undergo call.change) (inductionHypothesis _)

/-- A number that was given out and is not held any more is never held again. -/
theorem not_mem_ids_after {id : RecordId} (below : id < roster.nextId)
    (gone : id ∉ roster.records.map Record.id) (calls : List Monitor.Call) :
    id ∉ (roster.after calls).records.map Record.id := by
  induction calls generalizing roster with
  | nil => exact gone
  | cons call calls inductionHypothesis =>
      rw [after_cons]
      apply inductionHypothesis (Nat.lt_of_lt_of_le below (roster.nextId_le_undergo call.change))
      intro back
      rcases mem_ids_undergo back with held | rfl
      · exact gone held
      · exact Nat.lt_irrefl _ below

end Roster

end ProcessWatch
