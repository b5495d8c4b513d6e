/-
Module: ProcessWatch.Proofs.Roster.Truncation
Purpose: Which records a listing does not show, and what its flag for truncation tells of them.
Trusted boundary: calls meet enough memory, for which Proofs.Roster.Memory gives a condition
Main exports: Monitor.LeavesOut, Roster.truncated_listing_iff, Monitor.truncated_iff_leavesOut,
  Monitor.listRecent_leavesOut_untold

A listing of all records, or of those that started within an interval, goes through every record that
it could show.  A listing of the last records looks at no others, so that its flag tells nothing of
what came before them.
-/
import ProcessWatch.Proofs.Roster.Held
import ProcessWatch.Proofs.Roster.Renumbering

namespace ProcessWatch

/-- Of distinct items, the first ones leave some out exactly if there are more. -/
theorem exists_not_mem_take_iff {α : Type} {items : List α} (distinct : items.Nodup)
    (count : Nat) : (∃ item ∈ items, item ∉ items.take count) ↔ count < items.length := by
  constructor
  · intro leftOut
    obtain ⟨item, member, beyond⟩ := leftOut
    by_contra short
    rw [List.take_of_length_le (Nat.le_of_not_lt short)] at beyond
    exact beyond member
  · intro more
    refine ⟨items[count], List.getElem_mem more, fun early => ?_⟩
    obtain ⟨position, below, same⟩ := List.mem_take_iff_getElem.mp early
    have here : position = count := (List.Nodup.getElem_inj_iff distinct).mp same
    omega

namespace Roster

variable {roster : Roster}

theorem Numbered.nodup_records (numbered : roster.Numbered) : roster.records.Nodup :=
  numbered.nodup.of_map _

/-- A listing of distinct records is truncated if it leaves out some that pass the filter. -/
theorem truncated_listing_iff {candidates : List Record} (distinct : candidates.Nodup)
    (limit : Nat) :
    (roster.listing limit candidates).truncated = true ↔
      ∃ record ∈ candidates, roster.filter.accepts record.subject = true ∧
        record ∉ (roster.listing limit candidates).records := by
  let matching := candidates.filter fun record => roster.filter.accepts record.subject
  calc (roster.listing limit candidates).truncated = true
    _ ↔ limit < matching.length := decide_eq_true_iff
    _ ↔ ∃ record ∈ matching, record ∉ matching.take limit :=
        (exists_not_mem_take_iff (distinct.filter _) limit).symm
    _ ↔ _ := by simp only [matching, List.mem_filter, and_assoc, listing]

theorem mem_startedWithin {range : Interval Timestamp} {record : Record} :
    record ∈ roster.startedWithin range ↔
      record ∈ roster.records ∧ range.contains record.startedAt = true := by
  rw [startedWithin, Records.inStartOrder, List.mem_mergeSort, List.mem_filter]

theorem nodup_startedWithin (distinct : roster.records.Nodup) (range : Interval Timestamp) :
    (roster.startedWithin range).Nodup :=
  (List.mergeSort_perm _ _).nodup_iff.mpr (distinct.filter _)

/-- The last records are no more than were asked for. -/
theorem listing_recent (roster : Roster) (count : Nat) :
    let recent := roster.records.drop (roster.records.length - count)
    (roster.listing count recent).truncated = false ∧
      (roster.listing count recent).records =
        recent.filter fun record => roster.filter.accepts record.subject := by
  intro recent
  have short : (recent.filter fun record => roster.filter.accepts record.subject).length ≤ count := by
    calc (recent.filter fun record => roster.filter.accepts record.subject).length
      _ ≤ recent.length := List.length_filter_le _ _
      _ ≤ count := by rw [List.length_drop]; omega
  exact ⟨decide_eq_false (Nat.not_lt.mpr short), List.take_of_length_le short⟩

end Roster

namespace Monitor

/-- A listing does not show all records that it could: the monitor holds one more that is eligible
and passes the filter. -/
def LeavesOut (monitor : Monitor) (result : Listing) (eligible : Record → Bool) : Prop :=
  ∃ record ∈ monitor.held, eligible record = true ∧
    monitor.store.filter.accepts record.subject = true ∧ record ∉ result.records

/-- The flag of a listing of all records, or of those that started within an interval, tells whether
one that passes the filter is left out.  The flag of a listing of the last records is never set, and
what that listing leaves out is what came earlier and passes the filter. -/
theorem truncated_iff_leavesOut (options : Store.Options) (time : Timestamp) (calls : List Call)
    (few : calls.countP Call.isStart < Word.size) :
    let monitor := (create options time).1.after calls
    let store := monitor.store
    (∀ limit, (store.list limit).truncated = true ↔
        monitor.LeavesOut (store.list limit) fun _ => true) ∧
      (∀ range limit, (store.listStartedWithin range limit).truncated = true ↔
        monitor.LeavesOut (store.listStartedWithin range limit)
          fun record => range.contains record.startedAt) ∧
      ∀ count, (store.listRecent count).truncated = false ∧
        (monitor.LeavesOut (store.listRecent count) (fun _ => true) ↔
          ∃ record ∈ monitor.held.take (monitor.held.length - count),
            store.filter.accepts record.subject = true) := by
  intro monitor store
  let roster := (Roster.create options time).after calls
  have pictures : roster.Pictures monitor := (Roster.Pictures.create options time).after calls
  have models := pictures.models
  have held : monitor.held = roster.records := models.records
  have filter : store.filter = roster.filter := models.filter
  have distinct : roster.records.Nodup := models.numbered.nodup_records
  have bound : roster.nextId ≤ Word.size := Roster.nextId_after_create_le options time few
  refine ⟨?_, ?_, ?_⟩
  · intro limit
    rw [LeavesOut, models.list_eq, held, filter, Roster.truncated_listing_iff distinct]
    simp only [true_and]
  · intro range limit
    rw [LeavesOut, models.listStartedWithin_eq bound, held, filter,
      Roster.truncated_listing_iff (Roster.nodup_startedWithin distinct range)]
    simp only [Roster.mem_startedWithin, and_assoc]
  · intro count
    obtain ⟨untold, shown⟩ := roster.listing_recent count
    have parted := List.take_append_drop (roster.records.length - count) roster.records
    rw [LeavesOut, models.listRecent_eq, held, filter, shown]
    refine ⟨untold, ?_, ?_⟩
    · intro leftOut
      obtain ⟨record, member, -, accepted, hidden⟩ := leftOut
      refine ⟨record, ?_, accepted⟩
      rw [← parted] at member
      apply (List.mem_append.mp member).resolve_right
      exact fun recent => hidden (List.mem_filter.mpr ⟨recent, accepted⟩)
    · intro earlier
      obtain ⟨record, early, accepted⟩ := earlier
      refine ⟨record, List.mem_of_mem_take early, rfl, accepted, fun shown => ?_⟩
      rw [← parted] at distinct
      exact List.disjoint_of_nodup_append distinct early (List.mem_of_mem_filter shown)

/-- The filter hides the second record, so that the first two of three records are one to show and
one to leave out. -/
theorem truncated_iff_leavesOut_of_filter :
    let calls : List Call :=
      [.start 7 1 "sh", .start 8 1 "ls", .start 9 1 "sh",
        .askFilter (.setCommand "sh"), .askFilter .enable]
    let monitor := (create {} 0).1.after calls
    calls.countP Call.isStart < Word.size ∧
      (monitor.store.list 1).truncated = true ∧
      monitor.LeavesOut (monitor.store.list 1) fun _ => true :=
  have whole := (truncated_iff_leavesOut {} 0
    [.start 7 1 "sh", .start 8 1 "ls", .start 9 1 "sh",
      .askFilter (.setCommand "sh"), .askFilter .enable] (by decide)).1 1
  ⟨by decide, rfl, whole.mp rfl⟩

/-- Of two records that pass the filter the last one is shown, and nothing tells of the other. -/
theorem listRecent_leavesOut_untold :
    let monitor := (create {} 0).1.after [.start 7 1 "sh", .start 8 1 "sh"]
    ¬ ((monitor.store.listRecent 1).truncated = true ↔
      monitor.LeavesOut (monitor.store.listRecent 1) fun _ => true) := by
  intro monitor agrees
  have leftOut : monitor.LeavesOut (monitor.store.listRecent 1) fun _ => true :=
    ⟨Record.started 1 7 1 (CommandName.ofString "sh") 0, List.mem_cons_self, rfl, rfl, by decide⟩
  exact Bool.false_ne_true (agrees.mpr leftOut)

end Monitor

end ProcessWatch
