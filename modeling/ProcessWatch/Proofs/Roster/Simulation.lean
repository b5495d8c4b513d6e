/-
Module: ProcessWatch.Proofs.Roster.Simulation
Purpose: A monitor answers every sequence of calls as the roster does that starts with it.
Trusted boundary: calls meet enough memory, for which Proofs.Roster.Memory gives a condition
Main exports: Roster.Pictures, Roster.Pictures.undergo, Roster.Pictures.answer,
  Roster.Pictures.after, Monitor.answers_as_roster, Monitor.coherent_after
-/
import ProcessWatch.Proofs.Index.Consistency
import ProcessWatch.Proofs.Index.StartOrder
import ProcessWatch.Proofs.Roster.Models

namespace ProcessWatch

namespace Roster

open Monitor (Answer Call)

/-! ## Questions -/

namespace Models

variable {roster : Roster} {store : Store}

theorem collect_eq (models : roster.Models store) (limit : Nat) {entries : List Entry}
    {candidates : List Record} (listed : entries.map Entry.record = candidates) :
    Listing.collect store.filter limit entries = roster.listing limit candidates := by
  have shorter : ∀ records : List Record,
      (records.take limit).length < records.length ↔ limit < records.length := by
    intro records
    rw [List.length_take]
    omega
  simp only [Listing.collect_eq, listing, listed, models.filter, shorter]

theorem list_eq (models : roster.Models store) (limit : Nat) :
    store.list limit = roster.listing limit roster.records :=
  models.collect_eq limit models.records

theorem listRecent_eq (models : roster.Models store) (count : Nat) :
    store.listRecent count =
      roster.listing count (roster.records.drop (roster.records.length - count)) := by
  have recent := models.coherent.map_record_mostRecent count
  rw [models.records] at recent
  exact models.collect_eq count recent

/-- Only this query needs a bound: its keys end at the greatest word. -/
theorem listStartedWithin_eq (models : roster.Models store) (few : roster.nextId ≤ Word.size)
    (range : Interval Timestamp) (limit : Nat) :
    store.listStartedWithin range limit = roster.listing limit (roster.startedWithin range) := by
  have within := models.coherent.map_record_startedWithin range (models.nextId ▸ few)
  rw [models.records] at within
  exact models.collect_eq limit within

theorem lookup?_eq (models : roster.Models store) (pid : Pid) :
    store.lookup? pid = Records.lastRunning? roster.records pid := by
  rw [← models.records]
  exact models.coherent.newestRunning?_eq pid

theorem isEmpty_eq (models : roster.Models store) : store.isEmpty = roster.records.isEmpty := by
  rw [Store.isEmpty, models.size_eq]
  cases roster.records <;> rfl

end Models

/-! ## One call -/

/-- The roster pictures the monitor: the clocks agree, and the roster pictures the store. -/
structure Pictures (roster : Roster) (monitor : Monitor) : Prop where
  clock : roster.clock = monitor.clock
  models : roster.Models monitor.store

namespace Pictures

variable {roster : Roster} {monitor : Monitor}

theorem create (options : Store.Options) (time : Timestamp) :
    (Roster.create options time).Pictures (Monitor.create options time).1 where
  clock := rfl
  models := Models.create options time

/-- Every change keeps the picture true. -/
theorem undergo (pictures : roster.Pictures monitor) (change : Monitor.Change) :
    (roster.undergo change).Pictures (monitor.undergo change) := by
  obtain ⟨clock, models⟩ := pictures
  have now : monitor.clock.now = roster.clock.now := congrArg Clock.now clock.symm
  cases change with
  | nothing => exact ⟨clock, models⟩
  | start pid parent name =>
      constructor
      case clock => exact (clock_start roster pid parent name).trans clock
      case models =>
        rw [Monitor.undergo, now]
        exact (models.commitStart pid parent name).2
  | exit pid code usage =>
      constructor
      case clock => exact (clock_exit roster pid code usage).trans clock
      case models =>
        rw [Monitor.undergo, now]
        exact (models.commitExit pid code usage).2
  | moveClock move => exact ⟨congrArg (Clock.move · move) clock, models.setClock _⟩
  | setMonitoring monitoring => exact ⟨clock, models.setMonitoring monitoring⟩
  | clear => exact ⟨clock, models.clear⟩
  | resetStatistics => exact ⟨clock, models.resetStatistics⟩
  | askFilter call =>
      refine ⟨clock, ?_⟩
      rw [Monitor.undergo, Store.askFilter, models.filter]
      exact models.setFilter _

/-- Both give the same answer to a call.  Only a question for an interval of starts needs the bound on
the record numbers. -/
theorem answer_of_bound (pictures : roster.Pictures monitor) (call : Call)
    (bound : ∀ range limit, call = .listStartedWithin range limit → roster.nextId ≤ Word.size) :
    (monitor.perform call).answer = (roster.perform call).1 := by
  obtain ⟨clock, models⟩ := pictures
  have now : monitor.clock.now = roster.clock.now := congrArg Clock.now clock.symm
  have size := models.size_eq
  cases call with
  | start pid parent name =>
      have committed := models.commitStart_id? pid parent (CommandName.ofString name)
      rw [← now, ← Monitor.start_value] at committed
      exact congrArg Answer.started committed
  | exit pid code usage => rfl
  | deliver event => cases event <;> rfl
  | moveClock move => exact congrArg (fun clock => Answer.time (Clock.move clock move).now) clock.symm
  | list limit => exact congrArg Answer.listing (models.list_eq limit)
  | listRecent count => exact congrArg Answer.listing (models.listRecent_eq count)
  | listStartedWithin range limit =>
      exact congrArg Answer.listing (models.listStartedWithin_eq (bound range limit rfl) range limit)
  | lookup pid => exact congrArg Answer.record (models.lookup?_eq pid)
  | isEmpty => exact congrArg Answer.flag models.isEmpty_eq
  | size => exact congrArg Answer.count size
  | snapshot =>
      show Answer.snapshot _ = .snapshot _
      rw [Store.snapshot, snapshot, models.stats, size, models.capacity, models.monitoring,
        models.origin, now]
  | status =>
      show Answer.status _ = .status _
      rw [Store.status, status, models.monitoring, size, models.capacity]
  | isConsistent => exact congrArg Answer.flag models.coherent.viewsAgree.isConsistent
  | setMonitoring monitoring => rfl
  | clear => rfl
  | resetStatistics => rfl
  | shutdown => rfl
  | obey order => cases order <;> rfl
  | askFilter call =>
      show Answer.filter (monitor.store.filter.perform call).answer = .filter _
      rw [models.filter]

theorem answer (pictures : roster.Pictures monitor) (few : roster.nextId ≤ Word.size)
    (call : Call) : (monitor.perform call).answer = (roster.perform call).1 :=
  pictures.answer_of_bound call fun _ _ _ => few

/-! ## Several calls -/

theorem after (pictures : roster.Pictures monitor) (calls : List Call) :
    (roster.after calls).Pictures (monitor.after calls) := by
  induction calls generalizing roster monitor with
  | nil => exact pictures
  | cons call calls inductionHypothesis =>
      rw [Roster.after_cons, Monitor.after_cons]
      exact inductionHypothesis (pictures.undergo call.change)

theorem answers (pictures : roster.Pictures monitor) (calls : List Call)
    (few : roster.nextId + calls.countP Call.isStart ≤ Word.size) :
    monitor.answers calls = roster.answers calls := by
  induction calls generalizing roster monitor with
  | nil => rfl
  | cons call calls inductionHypothesis =>
      rw [List.countP_cons] at few
      have next := roster.nextId_undergo_le call
      rw [Roster.answers_cons, Monitor.answers_cons]
      congr 1
      · apply pictures.answer
        exact Nat.le_trans (Nat.le_add_right _ _) few
      · apply inductionHypothesis (pictures.undergo call.change)
        calc (roster.undergo call.change).nextId + calls.countP Call.isStart
          _ ≤ roster.nextId + (if call.isStart then 1 else 0) +
              calls.countP Call.isStart := Nat.add_le_add_right next _
          _ = roster.nextId + (calls.countP Call.isStart +
              if call.isStart then 1 else 0) := by rw [Nat.add_assoc, Nat.add_comm (ite _ _ _)]
          _ ≤ Word.size := few

end Pictures

end Roster

/-! ## A monitor from its start -/

namespace Monitor

/-- Whatever a monitor is asked, and whenever, it answers as a plain list of records would. -/
theorem answers_as_roster (options : Store.Options) (time : Timestamp) (calls : List Call)
    (few : calls.countP Call.isStart < Word.size) :
    let store := ((create options time).1.after calls).store
    let roster := (Roster.create options time).after calls
    (create options time).1.answers calls = (Roster.create options time).answers calls ∧
      store.index.oldestFirst.map Entry.record = roster.records ∧
      store.size = roster.records.length ∧
      (∀ pid, store.lookup? pid = Records.lastRunning? roster.records pid) ∧
      (∀ limit, store.list limit = roster.listing limit roster.records) ∧
      ∀ count, store.listRecent count =
        roster.listing count (roster.records.drop (roster.records.length - count)) := by
  intro store roster
  have pictures := Roster.Pictures.create options time
  have models : roster.Models store := (pictures.after calls).models
  refine ⟨?_, models.records, models.size_eq, models.lookup?_eq, models.list_eq,
    models.listRecent_eq⟩
  apply pictures.answers calls
  calc (1 : Nat) + calls.countP Call.isStart
    _ = calls.countP Call.isStart + 1 := Nat.add_comm _ _
    _ ≤ Word.size := few

/-- Of two records, the third start drops the first, and an exit ends the last that runs. -/
theorem answers_as_roster_of_reuse :
    (create { capacity := 2 } 5).1.answers
        [.start 7 1 "sh", .start 7 1 "sh", .start 7 1 "sh", .size, .exit 7 3 {}, .lookup 7] =
      [.started (some 1), .started (some 2), .started (some 3), .count 2, .done,
        .record (some (Record.started 2 7 1 (CommandName.ofString "sh") 5))] :=
  (answers_as_roster { capacity := 2 } 5
    [.start 7 1 "sh", .start 7 1 "sh", .start 7 1 "sh", .size, .exit 7 3 {}, .lookup 7]
    (by decide)).1.trans rfl

/-- In every state the ways to reach the records agree, and there are no more records than the
store may hold. -/
theorem coherent_after (options : Store.Options) (time : Timestamp) (calls : List Call) :
    let store := ((create options time).1.after calls).store
    store.index.Coherent ∧
      (∀ pid, (∀ id, ¬ Index.Runs store.index.arena pid id) → store.index.newest[pid]? = none) ∧
      store.size ≤ max options.capacity 1 ∧
      store.isConsistent = true := by
  intro store
  have models := ((Roster.Pictures.create options time).after calls).models
  have coherent : store.index.Coherent := models.coherent
  refine ⟨coherent, ?_, ?_, coherent.viewsAgree.isConsistent⟩
  · intro pid noneRuns
    obtain ⟨ids, chain⟩ := coherent.chains pid
    cases ids with
    | nil => exact chain.leads.head_eq
    | cons id rest => exact absurd ((chain.mem_iff id).mp List.mem_cons_self) (noneRuns id)
  · calc store.size
      _ = ((Roster.create options time).after calls).records.length := models.size_eq
      _ ≤ ((Roster.create options time).after calls).capacity := models.room
      _ = max options.capacity 1 := Roster.capacity_after _ calls

end Monitor

end ProcessWatch
