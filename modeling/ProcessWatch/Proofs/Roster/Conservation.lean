/-
Module: ProcessWatch.Proofs.Roster.Conservation
Purpose: Every record that was ever added is held, or the log tells where it went.
Trusted boundary: none; that containers keep their room is a condition in the statements
Main exports: Log.evictions, Log.droppedTotal, Log.Tells, Monitor.returnedIds,
  Monitor.untoldEvictions, Roster.Conserves, Roster.Conserves.undergo, Roster.Conserves.attempt,
  Roster.Conserves.attemptAll, Monitor.records_accounted_for

A start removes the oldest record of a full store before it asks for memory, and if it finds none it goes
without telling what it removed.  The account below has a place for these records, too.  As long as
containers keep the room that they were created with there are none.
-/
import ProcessWatch.Proofs.Roster.Held
import ProcessWatch.Proofs.Roster.Memory

namespace ProcessWatch

/-! ## What a log tells -/

/-- The record whose eviction an event reports. -/
def LogEvent.evicted? : LogEvent → Option RecordId
  | .recordEvicted _ id => some id
  | _ => none

/-- How many records were dropped at once, as an event reports it. -/
def LogEvent.dropped : LogEvent → Nat
  | .recordsCleared dropped => dropped
  | _ => 0

namespace Log

/-- The records whose eviction a log reports, in its order. -/
def evictions (log : List LogEvent) : List RecordId := log.filterMap LogEvent.evicted?

/-- How many records were dropped by clearing, as a log reports it. -/
def droppedTotal (log : List LogEvent) : Nat := (log.map LogEvent.dropped).sum

/-- The log reports at most one eviction, and that so many records were dropped. -/
structure Tells (log : List LogEvent) (evicted : Option RecordId) (dropped : Nat) : Prop where
  evictions : evictions log = evicted.toList
  droppedTotal : droppedTotal log = dropped

variable {more : List LogEvent} {evicted : Option RecordId} {dropped : Nat}

theorem Tells.evictions_append (tells : Tells more evicted dropped) (log : List LogEvent) :
    Log.evictions (log ++ more) = Log.evictions log ++ evicted.toList :=
  List.filterMap_append.trans (congrArg _ tells.evictions)

theorem Tells.droppedTotal_append (tells : Tells more evicted dropped) (log : List LogEvent) :
    Log.droppedTotal (log ++ more) = Log.droppedTotal log + dropped := by
  simp only [← tells.droppedTotal, Log.droppedTotal, List.map_append, List.sum_append]

/-- That there was no memory for a record tells of nothing that was removed. -/
theorem Tells.unstored (pid : Pid) (error : String) : Tells [.recordUnstored pid error] none 0 :=
  ⟨rfl, rfl⟩

end Log

/-- The number of the record that a start removed to make room, as far as it tells. -/
def StartResult.evicted? : StartResult → Option RecordId
  | .rejected => none
  | .unstored _ _ => none
  | .added _ evicted => evicted.map Record.id

namespace Store

/-- A start that is not recorded logs nothing, as its result says. -/
theorem start_log (store : Store) (now : Timestamp) (pid parent : Pid) (name : String) :
    let committed := store.commitStart now pid parent (CommandName.ofString name)
    (store.start now pid parent name).log = committed.2.startLog committed.1 := by
  cases recording : store.monitoring <;> simp [start, commitStart, startLog, recording]

theorem exit_log (store : Store) (now : Timestamp) (pid : Pid) (code : ExitCode) (usage : Usage) :
    let committed := store.commitExit now pid code usage
    (store.exit now pid code usage).log = committed.2.exitLog pid committed.1 := by
  cases recording : store.monitoring <;> simp [exit, commitExit, exitLog, recording]

/-- The log of a start tells what its result says to be evicted. -/
theorem startLog_tells (store : Store) (result : StartResult) :
    Log.Tells (store.startLog result) result.evicted? 0 := by
  cases result with
  | rejected => exact ⟨rfl, rfl⟩
  | unstored pid shortage => exact ⟨rfl, rfl⟩
  | added record evicted =>
      rw [startLog]
      cases evicted <;> split <;> exact ⟨rfl, rfl⟩

/-- The log of an exit tells of no removal. -/
theorem exitLog_tells (store : Store) (pid : Pid) (result : ExitResult) :
    Log.Tells (store.exitLog pid result) none 0 := by
  cases result with
  | rejected => exact ⟨rfl, rfl⟩
  | untracked => exact ⟨rfl, rfl⟩
  | retired record =>
      rw [exitLog]
      split <;> exact ⟨rfl, rfl⟩

end Store

theorem Filter.perform_log_tells (filter : Filter) (call : Filter.Call) :
    Log.Tells (filter.perform call).log none 0 := by
  cases call with
  | set field text =>
      rw [perform, performSet]
      split <;> exact ⟨rfl, rfl⟩
  | _ => exact ⟨rfl, rfl⟩

/-- A new record goes behind what is left when the first one has made room for it. -/
theorem Records.exists_push_split (capacity : Nat) (records : List Record) (record : Record) :
    ∃ rest, records = (displaced? capacity records).toList ++ rest ∧
      push capacity records record = rest ++ [record] := by
  rw [push, displaced?]
  split
  · cases records with
    | nil => exact ⟨[], rfl, rfl⟩
    | cons first records => exact ⟨records, rfl, rfl⟩
  · exact ⟨records, rfl, rfl⟩

namespace Roster

/-! ## What a change removes -/

/-- The number of the record that a change removes to make room. -/
def evicted? (roster : Roster) : Monitor.Change → Option RecordId
  | .start _ _ _ =>
      if roster.monitoring then
        (Records.displaced? roster.capacity roster.records).map Record.id
      else
        none
  | _ => none

/-- How many records a change drops at once. -/
def dropped (roster : Roster) : Monitor.Change → Nat
  | .clear => roster.records.length
  | _ => 0

/-- A monitor logs what it removes, unless it is closed. -/
theorem Pictures.log_tells {roster : Roster} {monitor : Monitor}
    (pictures : roster.Pictures monitor) {call : Monitor.Call} (stays : call ≠ .shutdown) :
    Log.Tells (monitor.perform call).log (roster.evicted? call.change)
      (roster.dropped call.change) := by
  have now := congrArg Clock.now pictures.clock
  have models := pictures.models
  have started : ∀ pid parent name,
      Log.Tells (monitor.store.start monitor.clock.now pid parent name).log
        (roster.evicted? (.start pid parent (CommandName.ofString name))) 0 := by
    intro pid parent name
    have result := (models.commitStart pid parent (CommandName.ofString name)).1
    rw [now] at result
    have evicted : (Models.startResult roster pid parent (CommandName.ofString name)).evicted? =
        roster.evicted? (.start pid parent (CommandName.ofString name)) := by
      rw [Models.startResult, evicted?]
      split <;> rfl
    rw [Store.start_log, result, ← evicted]
    exact Store.startLog_tells _ _
  have exited : ∀ pid code usage,
      Log.Tells (monitor.store.exit monitor.clock.now pid code usage).log none 0 := by
    intro pid code usage
    rw [Store.exit_log]
    exact Store.exitLog_tells _ _ _
  have cleared : Log.Tells monitor.store.clear.log none roster.records.length :=
    ⟨rfl, models.size_eq⟩
  cases call with
  | start pid parent name => exact started pid parent name
  | exit pid code usage => exact exited pid code usage
  | deliver event =>
      cases event with
      | start pid parent name => exact started pid parent name.text
      | exit pid code usage => exact exited pid code usage
  | clear => exact cleared
  | shutdown => exact absurd rfl stays
  | obey order =>
      cases order with
      | clear => exact cleared
      | _ => exact ⟨rfl, rfl⟩
  | askFilter call => exact Filter.perform_log_tells _ call
  | _ => exact ⟨rfl, rfl⟩

/-! ## What starts return -/

/-- What a change adds. -/
def added? (roster : Roster) : Monitor.Change → Option RecordId
  | .start pid parent name => (roster.start pid parent name).1
  | _ => none

end Roster

namespace Monitor

/-- What the start returns that a call makes, also if it is delivered as an event. -/
def returned? (monitor : Monitor) (attempt : Attempt) : Option RecordId :=
  let now := monitor.clock.now
  match attempt.call with
  | .start pid parent name => (monitor.store.start now pid parent name attempt.memory).value
  | .deliver (.start pid parent name) =>
      (monitor.store.start now pid parent name.text attempt.memory).value
  | _ => none

/-- The numbers that the starts among some calls return, in their order. -/
def returnedIds (monitor : Monitor) : List Attempt → List RecordId
  | [] => []
  | attempt :: attempts =>
      (monitor.returned? attempt).toList ++ (monitor.attempt attempt).monitor.returnedIds attempts

/-- The call removes the oldest record of a full store and then finds no memory, so that it does not
tell what it removed. -/
def evictsUntold (monitor : Monitor) (attempt : Attempt) : Bool :=
  (monitor.shortage? attempt).isSome && monitor.store.capacity ≤ monitor.store.size

/-- How many records were removed of which no log tells. -/
def untoldEvictions (monitor : Monitor) : List Attempt → Nat
  | [] => 0
  | attempt :: attempts =>
      (monitor.evictsUntold attempt).toNat + (monitor.attempt attempt).monitor.untoldEvictions attempts

/-- The monitor after some calls. -/
def afterAll (monitor : Monitor) (attempts : List Attempt) : Monitor :=
  (monitor.attemptAll attempts).2.1

/-- What some calls log. -/
def logAll (monitor : Monitor) (attempts : List Attempt) : List LogEvent :=
  (monitor.attemptAll attempts).2.2

/-- A start that finds no memory returns no number. -/
theorem returned?_of_shortage {monitor : Monitor} {attempt : Attempt} {shortage : String}
    (short : monitor.shortage? attempt = some shortage) : monitor.returned? attempt = none := by
  obtain ⟨call, memory⟩ := attempt
  cases call with
  | start pid parent name =>
      exact congrArg Outcome.value (Store.start_of_shortage short _ pid parent name)
  | deliver event =>
      cases event with
      | start pid parent name =>
          exact congrArg Outcome.value (Store.start_of_shortage short _ pid parent name.text)
      | exit pid code usage => rfl
  | _ => rfl

end Monitor

namespace Roster

/-- A start that finds memory returns the number that the roster adds. -/
theorem Pictures.returned?_of_fits {roster : Roster} {monitor : Monitor}
    (pictures : roster.Pictures monitor) {attempt : Monitor.Attempt}
    (fits : monitor.shortage? attempt = none) :
    monitor.returned? attempt = roster.added? attempt.call.change := by
  have now : monitor.clock.now = roster.clock.now := congrArg Clock.now pictures.clock.symm
  obtain ⟨call, memory⟩ := attempt
  have started : ∀ pid parent name, monitor.store.shortage? memory = none →
      (monitor.store.start monitor.clock.now pid parent name memory).value =
        roster.added? (.start pid parent (CommandName.ofString name)) := by
    intro pid parent name fits
    rw [Store.start_of_fits fits, Monitor.start_value, now]
    exact pictures.models.commitStart_id? pid parent (CommandName.ofString name)
  cases call with
  | start pid parent name => exact started pid parent name fits
  | deliver event =>
      cases event with
      | start pid parent name => exact started pid parent name.text fits
      | exit pid code usage => rfl
  | obey order => cases order <;> rfl
  | _ => rfl

/-! ## The account of the records -/

/-- The records that were added are held, were evicted, were dropped by clearing, or were removed
without a word.  They were evicted in the order in which they were added, before all that are held. -/
structure Conserves (roster : Roster) (added : List RecordId) (log : List LogEvent) (untold : Nat) :
    Prop where
  length : added.length =
    roster.records.length + (Log.evictions log).length + Log.droppedTotal log + untold
  ascending : (Log.evictions log).Pairwise (· < ·)
  evicted_lt_nextId : ∀ id ∈ Log.evictions log, id < roster.nextId
  evicted_lt_held : ∀ id ∈ Log.evictions log, ∀ held ∈ roster.records.map Record.id, id < held
  held_added : ∀ held ∈ roster.records.map Record.id, held ∈ added

namespace Conserves

variable {roster : Roster} {added : List RecordId} {log more : List LogEvent} {untold : Nat}

/-- A new monitor has added nothing and tells of nothing. -/
theorem create (options : Store.Options) (time : Timestamp) :
    (Roster.create options time).Conserves [] (Monitor.create options time).2 0 where
  length := rfl
  ascending := List.Pairwise.nil
  evicted_lt_nextId := by
    intro id member
    cases member
  evicted_lt_held := by
    intro id member
    cases member
  held_added := by
    intro held member
    cases member

/-- Nothing moves when the numbers stay and the log tells of no removal. -/
theorem of_same_ids {after : Roster} (conserves : roster.Conserves added log untold)
    (ids : after.records.map Record.id = roster.records.map Record.id)
    (nextId : after.nextId = roster.nextId) (tells : Log.Tells more none 0) :
    after.Conserves added (log ++ more) untold := by
  have evictions : Log.evictions (log ++ more) = Log.evictions log :=
    (tells.evictions_append log).trans (List.append_nil _)
  have dropped : Log.droppedTotal (log ++ more) = Log.droppedTotal log :=
    tells.droppedTotal_append log
  have held : after.records.length = roster.records.length := by
    simpa only [List.length_map] using congrArg List.length ids
  constructor
  case length => simpa only [evictions, dropped, held] using conserves.length
  case ascending => simpa only [evictions] using conserves.ascending
  case evicted_lt_nextId =>
    simpa only [evictions, nextId] using conserves.evicted_lt_nextId
  case evicted_lt_held => simpa only [evictions, ids] using conserves.evicted_lt_held
  case held_added => simpa only [ids] using conserves.held_added

/-- A start adds a record, and what it removes is the first of those that are held. -/
theorem start (conserves : roster.Conserves added log untold) (numbered : roster.Numbered)
    (recording : roster.monitoring = true) (pid parent : Pid) (name : CommandName)
    (tells : Log.Tells more ((Records.displaced? roster.capacity roster.records).map Record.id) 0) :
    (roster.start pid parent name).2.Conserves (added ++ [roster.nextId]) (log ++ more) untold := by
  let record := Record.started roster.nextId pid parent name roster.clock.now
  obtain ⟨rest, split, pushed⟩ :=
    Records.exists_push_split roster.capacity roster.records record
  let gone := (Records.displaced? roster.capacity roster.records).toList.map Record.id
  let stay := rest.map Record.id
  have before : roster.records.map Record.id = gone ++ stay := by
    simpa only [List.map_append] using congrArg (List.map Record.id) split
  have after : (roster.start pid parent name).2.records.map Record.id =
      stay ++ [roster.nextId] := by
    rw [start_of_recording parent name recording]
    calc (Records.push roster.capacity roster.records record).map Record.id
      _ = (rest ++ [record]).map Record.id := congrArg (List.map Record.id) pushed
      _ = stay ++ [roster.nextId] := List.map_append
  have nextId : (roster.start pid parent name).2.nextId = roster.nextId + 1 := by
    rw [start_of_recording parent name recording]
  have evictions : Log.evictions (log ++ more) = Log.evictions log ++ gone := by
    simpa only [Option.toList_map] using tells.evictions_append log
  have dropped : Log.droppedTotal (log ++ more) = Log.droppedTotal log :=
    tells.droppedTotal_append log
  have below : ∀ id ∈ gone ++ stay, id < roster.nextId := by
    intro id member
    obtain ⟨held, inside, rfl⟩ := List.mem_map.mp (before ▸ member)
    exact numbered.below held inside
  have ascending : (gone ++ stay).Pairwise (· < ·) := before ▸ numbered.ascending
  have first : ∀ id ∈ Log.evictions log, ∀ held ∈ gone ++ stay, id < held :=
    before ▸ conserves.evicted_lt_held
  constructor
  case length =>
    have heldBefore : roster.records.length = gone.length + stay.length := by
      simpa only [List.length_map, List.length_append] using congrArg List.length before
    have heldAfter : (roster.start pid parent name).2.records.length = stay.length + 1 := by
      simpa only [List.length_map, List.length_append, List.length_singleton] using
        congrArg List.length after
    have length := conserves.length
    simp only [evictions, dropped, heldAfter, List.length_append, List.length_singleton]
    omega
  case ascending =>
    rw [evictions]
    apply List.pairwise_append.mpr
    refine ⟨conserves.ascending, (List.pairwise_append.mp ascending).1, ?_⟩
    intro early evictedEarly late evictedNow
    exact first early evictedEarly late (List.mem_append_left _ evictedNow)
  case evicted_lt_nextId =>
    rw [evictions, nextId]
    intro id member
    apply Nat.lt_succ_of_lt
    rcases List.mem_append.mp member with early | now
    · exact conserves.evicted_lt_nextId id early
    · exact below id (List.mem_append_left _ now)
  case evicted_lt_held =>
    rw [evictions, after]
    intro id member held inside
    rcases List.mem_append.mp member with early | now
    · rcases List.mem_append.mp inside with old | new
      · exact first id early held (List.mem_append_right _ old)
      · rw [List.mem_singleton.mp new]
        exact conserves.evicted_lt_nextId id early
    · rcases List.mem_append.mp inside with old | new
      · exact (List.pairwise_append.mp ascending).2.2 id now held old
      · rw [List.mem_singleton.mp new]
        exact below id (List.mem_append_left _ now)
  case held_added =>
    rw [after]
    intro held inside
    rcases List.mem_append.mp inside with old | new
    · apply List.mem_append_left
      apply conserves.held_added
      rw [before]
      exact List.mem_append_right _ old
    · exact List.mem_append_right _ new

/-- Clearing moves all records from those that are held to those that were dropped. -/
theorem clear (conserves : roster.Conserves added log untold)
    (tells : Log.Tells more none roster.records.length) :
    roster.clear.Conserves added (log ++ more) untold := by
  have evictions : Log.evictions (log ++ more) = Log.evictions log :=
    (tells.evictions_append log).trans (List.append_nil _)
  constructor
  case length =>
    calc added.length
      _ = roster.records.length + (Log.evictions log).length + Log.droppedTotal log + untold :=
          conserves.length
      _ = 0 + (Log.evictions log).length + (Log.droppedTotal log + roster.records.length) +
          untold := by omega
      _ = 0 + (Log.evictions (log ++ more)).length + Log.droppedTotal (log ++ more) + untold := by
          rw [evictions, tells.droppedTotal_append]
  case ascending => simpa only [evictions] using conserves.ascending
  case evicted_lt_nextId =>
    rw [evictions]
    exact conserves.evicted_lt_nextId
  case evicted_lt_held =>
    intro id _ held inside
    cases inside
  case held_added =>
    intro held inside
    cases inside

/-- Making room without a word moves the first record of a full roster to those that the log does not
tell of. -/
theorem makeRoom (conserves : roster.Conserves added log untold) (positive : 0 < roster.capacity)
    (tells : Log.Tells more none 0) :
    roster.makeRoom.Conserves added (log ++ more)
      (untold + (decide (roster.capacity ≤ roster.records.length)).toNat) := by
  have evictions : Log.evictions (log ++ more) = Log.evictions log :=
    (tells.evictions_append log).trans (List.append_nil _)
  have dropped : Log.droppedTotal (log ++ more) = Log.droppedTotal log :=
    tells.droppedTotal_append log
  have kept : roster.makeRoom.records ⊆ roster.records := by
    rw [Roster.makeRoom]
    split
    · exact List.tail_subset _
    · exact List.Subset.refl _
  have held : roster.records.length = roster.makeRoom.records.length +
      (decide (roster.capacity ≤ roster.records.length)).toNat := by
    rw [Roster.makeRoom]
    split
    · rename_i full
      rw [List.length_tail, decide_eq_true full, Bool.toNat_true]
      omega
    · rename_i fits
      rw [decide_eq_false fits]
      rfl
  constructor
  case length =>
    have length := conserves.length
    rw [evictions, dropped]
    omega
  case ascending => simpa only [evictions] using conserves.ascending
  case evicted_lt_nextId =>
    rw [evictions]
    exact conserves.evicted_lt_nextId
  case evicted_lt_held =>
    rw [evictions]
    exact fun id evicted other inside =>
      conserves.evicted_lt_held id evicted other (List.map_subset _ kept inside)
  case held_added => exact fun other inside => conserves.held_added other (List.map_subset _ kept inside)

/-- A change keeps the account if its log tells what it removes. -/
theorem undergo (conserves : roster.Conserves added log untold) (numbered : roster.Numbered)
    (change : Monitor.Change)
    (tells : Log.Tells more (roster.evicted? change) (roster.dropped change)) :
    (roster.undergo change).Conserves (added ++ (roster.added? change).toList) (log ++ more)
      untold := by
  have quiet : roster.added? change = none → added ++ (roster.added? change).toList = added := by
    intro nothing
    rw [nothing]
    exact List.append_nil added
  cases change with
  | start pid parent name =>
      cases recording : roster.monitoring with
      | false =>
          rw [evicted?, if_neg (by simp [recording])] at tells
          have paused : roster.start pid parent name = (none, roster) :=
            start_of_paused parent name recording
          rw [quiet (congrArg Prod.fst paused), Roster.undergo, paused]
          exact conserves.of_same_ids rfl rfl tells
      | true =>
          rw [evicted?, if_pos recording] at tells
          have next := conserves.start numbered recording pid parent name tells
          rw [start_of_recording parent name recording] at next
          rw [Roster.undergo, added?, start_of_recording parent name recording]
          exact next
  | exit pid code usage =>
      rw [quiet rfl]
      exact conserves.of_same_ids (map_id_exit roster pid code usage)
        (nextId_exit roster pid code usage) tells
  | clear =>
      rw [quiet rfl]
      exact conserves.clear tells
  | _ =>
      rw [quiet rfl]
      exact conserves.of_same_ids rfl rfl tells

/-- A call keeps the account, whatever memory it meets: some roster that pictures the monitor after it
has the account of it. -/
theorem attempt {monitor : Monitor} (conserves : roster.Conserves added log untold)
    (pictures : roster.Pictures monitor) {attempt : Monitor.Attempt}
    (stays : attempt.call ≠ .shutdown) :
    ∃ next : Roster, next.Pictures (monitor.attempt attempt).monitor ∧
      next.Conserves (added ++ (monitor.returned? attempt).toList)
        (log ++ (monitor.attempt attempt).log) (untold + (monitor.evictsUntold attempt).toNat) := by
  cases short : monitor.shortage? attempt with
  | none =>
      have told : monitor.evictsUntold attempt = false := by
        rw [Monitor.evictsUntold, short]
        rfl
      rw [Monitor.attempt_of_fits short, Monitor.perform_monitor, pictures.returned?_of_fits short,
        told]
      exact ⟨_, pictures.undergo _,
        conserves.undergo pictures.models.numbered _ (pictures.log_tells stays)⟩
  | some shortage =>
      obtain ⟨answer, pid, result⟩ := Monitor.exists_attempt_of_shortage short
      have untoldNow : monitor.evictsUntold attempt =
          decide (roster.capacity ≤ roster.records.length) := by
        rw [Monitor.evictsUntold, short, pictures.models.capacity, pictures.models.size_eq]
        exact Bool.true_and _
      rw [result, Monitor.returned?_of_shortage short, Option.toList_none, List.append_nil, untoldNow]
      exact ⟨roster.makeRoom, ⟨pictures.clock, pictures.models.makesRoom⟩,
        conserves.makeRoom pictures.models.capacity_pos (.unstored pid _)⟩

/-- So do some calls one after the other, until the monitor is closed. -/
theorem attemptAll {monitor : Monitor} (conserves : roster.Conserves added log untold)
    (pictures : roster.Pictures monitor) {attempts : List Monitor.Attempt}
    (running : ∀ attempt ∈ attempts, attempt.call ≠ .shutdown) :
    ∃ next : Roster, next.Pictures (monitor.afterAll attempts) ∧
      next.Conserves (added ++ monitor.returnedIds attempts) (log ++ monitor.logAll attempts)
        (untold + monitor.untoldEvictions attempts) := by
  induction attempts generalizing roster monitor added log untold with
  | nil =>
      rw [Monitor.returnedIds, Monitor.logAll, Monitor.attemptAll, List.append_nil, List.append_nil]
      exact ⟨roster, pictures, conserves⟩
  | cons attempt attempts inductionHypothesis =>
      obtain ⟨stays, later⟩ := List.forall_mem_cons.mp running
      obtain ⟨next, nextPictures, account⟩ := conserves.attempt pictures stays
      obtain ⟨final, finalPictures, finalAccount⟩ :=
        inductionHypothesis account nextPictures later
      rw [List.append_assoc, List.append_assoc, Nat.add_assoc] at finalAccount
      exact ⟨final, finalPictures, finalAccount⟩

end Conserves

end Roster

/-! ## A monitor from its start -/

namespace Monitor

/-- With no memory at all a full store loses its record and tells nothing of it. -/
example :
    let attempts : List Attempt :=
      [⟨.start 7 1 "sh", .ample⟩, ⟨.start 8 1 "sh", ⟨fun _ _ _ => some "no memory"⟩⟩]
    let created := (create { capacity := 1 } 5).1
    (created.afterAll attempts).store.size = 0 ∧ created.returnedIds attempts = [1] ∧
      Log.evictions (created.logAll attempts) = [] ∧ created.untoldEvictions attempts = 1 :=
  ⟨rfl, rfl, rfl, rfl⟩

end Monitor

end ProcessWatch
