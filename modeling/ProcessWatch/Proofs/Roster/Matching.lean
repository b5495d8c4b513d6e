/-
Module: ProcessWatch.Proofs.Roster.Matching
Purpose: Which of the held records match the filter, in whatever way they are listed, and what the end of
  a process does to them.
Trusted boundary: calls meet enough memory, for which Proofs.Roster.Memory gives a condition
Main exports: Monitor.matching, Monitor.Named, Listing.Counts, Roster.Pictures.mem_matching_iff,
  Roster.Pictures.name_eq_of_named, Roster.Pictures.exists_named, Monitor.listed_iff_described

A listing goes through the entries of the store and asks the filter about each of them.  The name that a
filter compares is the one that a record keeps of the text that its start gave.
-/
import ProcessWatch.Proofs.Filter.Verdict

namespace ProcessWatch

/-! ## Listings -/

/-- The listing counts those of some candidates that match, and shows the first `limit` of them. -/
structure Listing.Counts (result : Listing) (limit : Nat) (candidates matching : List Record) :
    Prop where
  total : result.totalMatched = candidates.countP fun record => record ∈ matching
  shown : result.records = (candidates.filter fun record => record ∈ matching).take limit

/-- The records that match the filter: those of a listing that has room for all. -/
def Monitor.matching (monitor : Monitor) : List Record :=
  (monitor.store.list monitor.store.capacity).records

namespace Roster

open Monitor (Call Change)

variable {roster : Roster} {monitor : Monitor} {record : Record}

namespace Pictures

/-- The matching records are those of the roster that its filter accepts. -/
theorem matching_eq (pictures : roster.Pictures monitor) :
    monitor.matching = roster.records.filter fun record => roster.filter.accepts record.subject := by
  have room := pictures.models.room
  rw [← pictures.models.capacity] at room
  rw [Monitor.matching, pictures.models.list_eq]
  exact List.take_of_length_le ((List.length_filter_le _ _).trans room)

theorem mem_matching_iff (pictures : roster.Pictures monitor) :
    record ∈ monitor.matching ↔
      record ∈ roster.records ∧ roster.filter.accepts record.subject = true := by
  rw [pictures.matching_eq, List.mem_filter]

/-- The filter of the store decides which of the held records match. -/
theorem accepts_iff_mem_matching (pictures : roster.Pictures monitor)
    (held : record ∈ roster.records) :
    monitor.store.filter.accepts record.subject = true ↔ record ∈ monitor.matching := by
  rw [pictures.models.filter, pictures.mem_matching_iff]
  exact (and_iff_right held).symm

/-- Whatever entries of the store a listing goes through, it counts the records that match. -/
theorem counts_collect (pictures : roster.Pictures monitor) (limit : Nat) {entries : List Entry}
    (held : ∀ record ∈ entries.map Entry.record, record ∈ monitor.held) :
    (Listing.collect monitor.store.filter limit entries).Counts limit (entries.map Entry.record)
      monitor.matching := by
  have same : (entries.map Entry.record).filter
        (fun record => monitor.store.filter.accepts record.subject) =
      (entries.map Entry.record).filter fun record => record ∈ monitor.matching := by
    apply List.filter_congr
    intro record member
    have inside : record ∈ roster.records := pictures.held ▸ held record member
    rw [Bool.eq_iff_iff, decide_eq_true_iff]
    exact pictures.accepts_iff_mem_matching inside
  rw [Listing.collect_eq, same]
  exact ⟨List.countP_eq_length_filter.symm, rfl⟩

/-- A listing of all records counts the matching ones among all that are held. -/
theorem counts_list (pictures : roster.Pictures monitor) (limit : Nat) :
    (monitor.store.list limit).Counts limit monitor.held monitor.matching :=
  pictures.counts_collect limit fun _ member => member

/-- A listing of the last records counts the matching ones among these. -/
theorem counts_listRecent (pictures : roster.Pictures monitor) (count : Nat) :
    (monitor.store.listRecent count).Counts count
      (monitor.held.drop (monitor.held.length - count)) monitor.matching := by
  have recent : (monitor.store.index.mostRecent count).map Entry.record =
      monitor.held.drop (monitor.held.length - count) :=
    pictures.models.coherent.map_record_mostRecent count
  rw [← recent]
  apply pictures.counts_collect
  intro record member
  exact List.mem_of_mem_drop (recent ▸ member)

/-- A listing of an interval counts the matching ones among those that started there. -/
theorem counts_listStartedWithin (pictures : roster.Pictures monitor) (range : Interval Timestamp)
    (limit : Nat) :
    (monitor.store.listStartedWithin range limit).Counts limit
      ((monitor.store.index.startedWithin range).map Entry.record) monitor.matching := by
  apply pictures.counts_collect
  exact fun _ member => pictures.models.coherent.mem_records_of_mem_startedWithin member

end Pictures

end Roster

/-! ## Names -/

namespace Monitor

/-- The text that a call gives as the name of a process that starts. -/
def Call.givenName? : Call → Option String
  | .start _ _ given => some given
  | .deliver (.start _ _ name) => some name.text
  | _ => none

/-- One of the calls added the record with that number, and gave its process that name. -/
def Named (monitor : Monitor) (calls : List Call) (id : RecordId) (given : String) : Prop :=
  ∃ early call late, calls = early ++ call :: late ∧ call.givenName? = some given ∧
    (monitor.after early).happening? call = some (.started id)

theorem Call.change_of_givenName? {call : Call} {given : String}
    (gives : call.givenName? = some given) :
    ∃ pid parent, call.change = .start pid parent (CommandName.ofString given) := by
  cases call with
  | start pid parent name =>
      cases gives
      exact ⟨pid, parent, rfl⟩
  | deliver event =>
      cases event with
      | start pid parent name =>
          cases gives
          exact ⟨pid, parent, rfl⟩
      | exit pid code usage => cases gives
  | _ => cases gives

/-- A start is always given a name. -/
theorem Call.exists_givenName? {call : Call} {pid parent : Pid} {name : CommandName}
    (change : call.change = .start pid parent name) : ∃ given, call.givenName? = some given := by
  cases call with
  | start pid parent name => exact ⟨name, rfl⟩
  | deliver event =>
      cases event with
      | start pid parent name => exact ⟨name.text, rfl⟩
      | exit pid code usage => cases change
  | obey order => cases order <;> cases change
  | _ => cases change

/-- Later calls do not take back a name that was given. -/
theorem Named.append {monitor : Monitor} {calls : List Call} {id : RecordId} {given : String}
    (named : monitor.Named calls id given) (more : List Call) :
    monitor.Named (calls ++ more) id given := by
  obtain ⟨early, call, late, rfl, gives, started⟩ := named
  exact ⟨early, call, late ++ more, by simp, gives, started⟩

end Monitor

/-- Whatever becomes of a record, it keeps its name. -/
theorem Record.Becomes.name_eq {old new : Record} (becomes : old.Becomes new) :
    new.name = old.name := by
  cases becomes <;> rfl

namespace Roster

open Monitor (Call Change)

variable {roster : Roster} {monitor : Monitor} {record : Record}

/-- A record that a change adds is held after it. -/
theorem exists_started {change : Change} {id : RecordId}
    (started : roster.happening? change = some (.started id)) :
    ∃ pid parent name, change = .start pid parent name ∧ roster.monitoring = true ∧
      Record.started id pid parent name roster.clock.now ∈ (roster.undergo change).records := by
  obtain rfl := eq_nextId_of_started started
  cases change with
  | start pid parent name =>
      cases recording : roster.monitoring with
      | false =>
          rw [happening?, start_of_paused parent name recording] at started
          cases started
      | true =>
          refine ⟨pid, parent, name, rfl, rfl, ?_⟩
          rw [undergo, start_of_recording parent name recording]
          exact List.mem_append_right _ (List.mem_singleton_self _)
  | exit pid code usage =>
      obtain ⟨record, -, same⟩ := Option.map_eq_some_iff.mp started
      cases same
  | _ => cases started

namespace Pictures

/-- A record keeps the name that its start gave, as far as it fits. -/
theorem name_eq_of_named (pictures : roster.Pictures monitor) {calls : List Call} {given : String}
    (named : monitor.Named calls record.id given) (member : record ∈ (monitor.after calls).held) :
    record.name = CommandName.ofString given := by
  obtain ⟨early, call, late, rfl, gives, started⟩ := named
  have before := pictures.after early
  have after := before.undergo call.change
  rw [before.happening?] at started
  obtain ⟨pid, parent, change⟩ := Call.change_of_givenName? gives
  obtain ⟨samePid, sameParent, name, same, -, added⟩ := exists_started started
  obtain ⟨-, -, rfl⟩ := Change.start.inj (same.symm.trans change)
  rw [Monitor.after_append, Monitor.after_cons, (after.after late).held] at member
  exact (after.becomes_after added member rfl).name_eq

/-- Every record that is held was added by a start, which gave its process a name. -/
theorem exists_named (pictures : roster.Pictures monitor) (empty : roster.records = [])
    (calls : List Call) :
    ∀ record ∈ (monitor.after calls).held, ∃ given, monitor.Named calls record.id given := by
  induction calls using List.reverseRecOn with
  | nil =>
      intro record member
      rw [Monitor.after_nil, pictures.held, empty] at member
      cases member
  | append_singleton calls call inductionHypothesis =>
      intro record member
      have before := pictures.after calls
      rw [Monitor.after_append, Monitor.after_cons, Monitor.after_nil,
        (before.undergo call.change).held] at member
      by_cases old : record.id ∈ (roster.after calls).records.map Record.id
      case pos =>
        obtain ⟨other, inside, same⟩ := List.mem_map.mp old
        obtain ⟨given, named⟩ := inductionHypothesis other (before.held ▸ inside)
        exact ⟨given, same ▸ named.append [call]⟩
      case neg =>
        obtain ⟨pid, parent, name, change, rfl⟩ :=
          (arises_of_mem_undergo member).started_of_not_mem old
        obtain ⟨given, gives⟩ := Call.exists_givenName? change
        refine ⟨given, calls, call, [], rfl, gives, ?_⟩
        rw [before.happening?, change]
        cases recording : (roster.after calls).monitoring with
        | false =>
            -- A paused store would not have added it.
            rw [change, Roster.undergo, start_of_paused parent name recording] at member
            exact absurd (List.mem_map_of_mem member) old
        | true =>
            rw [Roster.happening?, start_of_recording parent name recording]
            rfl

end Pictures

/-! ## Exits -/

@[simp] theorem filter_exit (roster : Roster) (pid : Pid) (code : ExitCode) (usage : Usage) :
    (roster.exit pid code usage).filter = roster.filter := by
  rw [exit]
  split <;> rfl

/-- At an exit a record stays as it is, or it is the one that ends. -/
theorem mem_exit_or_ending (member : record ∈ roster.records) (pid : Pid) (code : ExitCode)
    (usage : Usage) :
    record ∈ (roster.exit pid code usage).records ∨
      roster.ending? pid code usage = some (record.ended roster.clock.now code usage) := by
  rcases roster.exit_split pid code usage with
    ⟨-, same⟩ | ⟨before, running, after, split, -, ending, records⟩
  · rw [same]
    exact Or.inl member
  · simp only [split, List.mem_append, List.mem_cons] at member
    simp only [records, ending, List.mem_append, List.mem_cons]
    rcases member with early | rfl | late
    · exact Or.inl (Or.inl early)
    · exact Or.inr rfl
    · exact Or.inl (Or.inr (Or.inr late))

namespace Pictures

/-- No record begins to match when a process ends. -/
theorem mem_matching_of_exit (pictures : roster.Pictures monitor)
    (sound : ∀ record ∈ roster.records, record.Sound) {pid : Pid} {code : ExitCode} {usage : Usage}
    {id : RecordId}
    (member : id ∈ (monitor.undergo (.exit pid code usage)).matching.map Record.id) :
    id ∈ monitor.matching.map Record.id := by
  obtain ⟨record, inside, rfl⟩ := List.mem_map.mp member
  obtain ⟨held, accepted⟩ := (pictures.undergo _).mem_matching_iff.mp inside
  rw [Roster.undergo, filter_exit] at accepted
  cases arises_of_mem_undergo held with
  | kept before => exact List.mem_map_of_mem (pictures.mem_matching_iff.mpr ⟨before, accepted⟩)
  | @ended pid running last code usage =>
      obtain ⟨before, runs⟩ := Records.runsAs_of_lastRunning? last
      have noEnd := ((sound running before).running (Record.status_of_runsAs runs)).1
      have passed := Filter.accepts_of_accepts_ended noEnd accepted
      exact List.mem_map.mpr ⟨running, pictures.mem_matching_iff.mpr ⟨before, passed⟩, rfl⟩

/-- Only the record that ends may cease to match. -/
theorem retired_of_not_mem_matching (pictures : roster.Pictures monitor) {pid : Pid}
    {code : ExitCode} {usage : Usage} {id : RecordId} (before : id ∈ monitor.matching.map Record.id)
    (gone : id ∉ (monitor.undergo (.exit pid code usage)).matching.map Record.id) :
    ∃ record, monitor.happening? (.exit pid code usage) = some (.retired record) ∧
      record.id = id := by
  obtain ⟨record, inside, rfl⟩ := List.mem_map.mp before
  obtain ⟨held, accepted⟩ := pictures.mem_matching_iff.mp inside
  rcases mem_exit_or_ending held pid code usage with stays | ending
  · have still := (pictures.undergo (.exit pid code usage)).mem_matching_iff.mpr
      ⟨stays, by rwa [Roster.undergo, filter_exit]⟩
    exact absurd (List.mem_map_of_mem still) gone
  · refine ⟨record.ended roster.clock.now code usage, ?_, rfl⟩
    rw [pictures.happening?]
    exact congrArg (Option.map Happening.retired) ending

end Pictures

end Roster

/-! ## A monitor from its start -/

namespace Monitor

/-- In every state and for every filter, what a listing counts are the held records of which the
requirements of the filter are true, with the names that their starts gave cut as the filter's own is;
and it shows the first of them.  An entry of the store and the record that is shown of it pass the
filter alike.  When a process ends, no record begins to match, and none but its own ceases to. -/
theorem listed_iff_described (options : Store.Options) (time : Timestamp) (calls : List Call) :
    let start := (create options time).1
    let monitor := start.after calls
    (∀ record ∈ monitor.held, ∃ given, start.Named calls record.id given) ∧
      (∀ filter : Filter,
        let asked := (monitor.perform (.askFilter (.configure filter))).monitor
        (∀ record ∈ monitor.held, ∀ given, start.Named calls record.id given →
          (record ∈ asked.matching ↔ filter.enabled = false ∨ filter.Describes record given)) ∧
        (∀ record ∈ asked.matching, record ∈ monitor.held) ∧
        (∀ limit, (asked.store.list limit).Counts limit monitor.held asked.matching) ∧
        (∀ count, (asked.store.listRecent count).Counts count
          (monitor.held.drop (monitor.held.length - count)) asked.matching) ∧
        (∀ range limit, (asked.store.listStartedWithin range limit).Counts limit
          ((monitor.store.index.startedWithin range).map Entry.record) asked.matching) ∧
        (∀ text, (filter.require (.command text)).command = some (CommandName.ofString text)) ∧
        (∀ record ∈ monitor.held, record.status = .running → ∀ least greatest,
          { filter with minLifetime := least, maxLifetime := greatest }.accepts record.subject =
            filter.accepts record.subject) ∧
        ∀ entry : Entry, filter.accepts entry.subject = filter.accepts entry.record.subject) ∧
      ∀ pid code usage,
        let next := (monitor.perform (.exit pid code usage)).monitor
        (∀ id ∈ next.matching.map Record.id, id ∈ monitor.matching.map Record.id) ∧
          ∀ id ∈ monitor.matching.map Record.id, id ∉ next.matching.map Record.id →
            ∃ record, monitor.happening? (.exit pid code usage) = some (.retired record) ∧
              record.id = id := by
  intro start monitor
  have starts : (Roster.create options time).Pictures start := Roster.Pictures.create options time
  let roster := (Roster.create options time).after calls
  have pictures : roster.Pictures monitor := starts.after calls
  have sound : ∀ record ∈ roster.records, record.Sound := by
    apply Roster.sound_after
    intro record member
    cases member
  refine ⟨starts.exists_named rfl calls, ?_, ?_⟩
  · intro filter asked
    have configured : ({ roster with filter := filter } : Roster).Pictures asked :=
      pictures.undergo (.askFilter (.configure filter))
    refine ⟨?_, ?_, configured.counts_list, configured.counts_listRecent,
      configured.counts_listStartedWithin, fun text => rfl, ?_, ?_⟩
    · intro record member given named
      have name := starts.name_eq_of_named named member
      rw [pictures.held] at member
      rw [configured.mem_matching_iff, ← Filter.accepts_iff_describes (sound record member) name]
      exact and_iff_right member
    · intro record member
      rw [pictures.held]
      exact (configured.mem_matching_iff.mp member).1
    · intro record member running least greatest
      rw [pictures.held] at member
      exact Filter.accepts_of_running ((sound record member).running running).1 least greatest
    · intro entry
      rw [Entry.subject_eq]
  · intro pid code usage next
    have undergone : next = monitor.undergo (.exit pid code usage) := perform_monitor _ _
    rw [undergone]
    exact ⟨fun id => pictures.mem_matching_of_exit sound,
      fun id => pictures.retired_of_not_mem_matching⟩

/-- Both names are cut to the same fifteen bytes.  One nanosecond short of three seconds is within a
bound of two, and it is what takes the record out of the listing once at least three are required. -/
theorem listed_iff_described_of_long_name :
    let calls : List Call :=
      [.start 8 1 "a-very-long-process-name", .moveClock (.advance ⟨2999999999⟩)]
    let ended : List Call := calls ++ [.exit 8 0 {}]
    let start := (create {} 5).1
    let filter := Filter.ofRequirements
      [.enabled, .command "a-very-long-process-nap", .maxLifetime 2]
    let asked := ((start.after ended).perform (.askFilter (.configure filter))).monitor
    let demanding : List Call := calls ++ [.askFilter (.setMinLifetime 3), .askFilter .enable]
    let long := start.after demanding
    let record := (Record.started 1 8 1 (CommandName.ofString "a-very-long-process-name") 5).ended
      3000000004 0 {}
    record ∈ asked.matching ∧ filter.Describes record "a-very-long-process-name" ∧
      long.matching.map Record.id = [1] ∧
      (long.perform (.exit 8 0 {})).monitor.matching = [] ∧
      ∃ record, long.happening? (.exit 8 0 {}) = some (.retired record) ∧ record.id = 1 := by
  intro calls ended start filter asked demanding long record
  have member : record ∈ (start.after ended).held := by decide +kernel
  have started : start.happening? (.start 8 1 "a-very-long-process-name") = some (.started 1) := by
    decide +kernel
  have named : start.Named ended 1 "a-very-long-process-name" :=
    ⟨[], .start 8 1 "a-very-long-process-name", _, List.nil_append _, rfl, started⟩
  have shown : record ∈ asked.matching := by decide +kernel
  have enabled : filter.enabled ≠ false := by decide
  have before : long.matching.map Record.id = [1] := by decide +kernel
  have after : (long.perform (.exit 8 0 {})).monitor.matching = [] := by decide +kernel
  obtain ⟨-, verdicts, -⟩ := listed_iff_described {} 5 ended
  obtain ⟨verdict, -⟩ := verdicts filter
  have passed := (verdict record member "a-very-long-process-name" named).mp shown
  obtain ⟨-, -, exits⟩ := listed_iff_described {} 5 demanding
  obtain ⟨-, ceases⟩ := exits 8 0 {}
  have gone : 1 ∉ (long.perform (.exit 8 0 {})).monitor.matching.map Record.id := by
    rw [after]
    exact List.not_mem_nil
  exact ⟨shown, passed.resolve_left enabled, before, after,
    ceases 1 (before ▸ List.mem_singleton_self 1) gone⟩

end Monitor

end ProcessWatch
