/-
Module: ProcessWatch.Proofs.Roster.Running
Purpose: Where the number of running processes comes from: a store still holds their records, or has
  lost them.
Trusted boundary: calls meet enough memory, for which Proofs.Roster.Memory gives a condition
Main exports: Records.lost, Records.runningFrom, Monitor.lostIds, Roster.Balances,
  Roster.Balances.undergo, Roster.Balances.after, Monitor.current_eq_held_add_lost
-/
import ProcessWatch.Proofs.Roster.History

namespace ProcessWatch

namespace Records

/-- The numbers of the records that run beforehand and are gone afterwards. -/
def lost (before after : List Record) : List RecordId :=
  ((before.filter Record.isRunning).map Record.id).filter fun id => id ∉ after.map Record.id

/-- The records that are still there afterwards, as they stood beforehand. -/
def kept (before after : List Record) : List Record :=
  before.filter fun record => record.id ∈ after.map Record.id

/-- How many records run, of those with a number from `first` on. -/
def runningFrom (first : RecordId) (records : List Record) : Nat :=
  records.countP fun record => record.isRunning && first ≤ record.id

variable {before after : List Record} {id first : RecordId}

/-- Lost are the running records whose number is no longer held. -/
theorem mem_lost : id ∈ lost before after ↔
    (∃ record ∈ before, record.isRunning = true ∧ record.id = id) ∧ id ∉ after.map Record.id := by
  simp only [lost, List.mem_filter, List.mem_map, decide_eq_true_eq]
  constructor
  · intro inside
    obtain ⟨⟨record, ⟨member, running⟩, same⟩, gone⟩ := inside
    exact ⟨⟨record, member, running, same⟩, gone⟩
  · intro inside
    obtain ⟨⟨record, member, running, same⟩, gone⟩ := inside
    exact ⟨⟨record, ⟨member, running⟩, same⟩, gone⟩

theorem lost_subset (member : id ∈ lost before after) : id ∈ before.map Record.id := by
  obtain ⟨⟨record, inside, -, same⟩, -⟩ := mem_lost.mp member
  exact List.mem_map.mpr ⟨record, inside, same⟩

/-- Nothing is lost twice at once. -/
theorem nodup_lost (distinct : (before.map Record.id).Nodup) : (lost before after).Nodup := by
  apply List.Nodup.filter
  exact distinct.sublist (List.filter_sublist.map Record.id)

/-- Whatever runs is kept or lost. -/
theorem runningFrom_eq_kept_add_lost (first : RecordId) (before after : List Record) :
    runningFrom first before =
      runningFrom first (kept before after) + (lost before after).countP (first ≤ ·) := by
  have parted := List.countP_eq_countP_filter_add before
    (fun record => record.isRunning && decide (first ≤ record.id))
    (fun record => decide (record.id ∈ after.map Record.id))
  have gone : (lost before after).countP (first ≤ ·) =
      (before.filter fun record => !decide (record.id ∈ after.map Record.id)).countP
        fun record => record.isRunning && decide (first ≤ record.id) := by
    simp only [lost, List.countP_filter, List.countP_map]
    apply List.countP_congr
    intro record _
    simp only [Function.comp_apply, Bool.and_eq_true, decide_eq_true_eq, Bool.not_eq_true',
      decide_eq_false_iff_not]
    tauto
  rw [gone]
  exact parted

/-! ## What each change keeps -/

/-- Nothing is lost as long as all numbers stay. -/
theorem kept_of_subset (subset : ∀ record ∈ before, record.id ∈ after.map Record.id) :
    kept before after = before := by
  apply List.filter_eq_self.mpr
  intro record member
  exact decide_eq_true (subset record member)

theorem lost_of_subset (subset : ∀ record ∈ before, record.id ∈ after.map Record.id) :
    lost before after = [] := by
  apply List.filter_eq_nil_iff.mpr
  intro id member
  obtain ⟨record, inside, rfl⟩ := List.mem_map.mp member
  simpa using subset record (List.mem_of_mem_filter inside)

/-- Where nothing is held nothing was kept. -/
theorem kept_nil (before : List Record) : kept before [] = [] := by
  apply List.filter_eq_nil_iff.mpr
  intro record _
  simp

/-- One more record at the end, with a new number, leaves of the others what is there without it. -/
theorem kept_push {capacity : Nat} {records : List Record} {record : Record}
    (distinct : (records.map Record.id).Nodup) (fresh : record.id ∉ records.map Record.id) :
    push capacity records record = kept records (push capacity records record) ++ [record] := by
  rw [push]
  apply congrArg (· ++ [record])
  split
  case isFalse =>
    apply Eq.symm
    apply kept_of_subset
    intro other member
    exact List.mem_map_of_mem (List.mem_append_left _ member)
  case isTrue =>
    cases records with
    | nil => rfl
    | cons head records =>
        rw [List.map_cons] at distinct fresh
        have headGone : head.id ∉ (records ++ [record]).map Record.id := by
          intro member
          rw [List.map_append] at member
          rcases List.mem_append.mp member with old | new
          · exact (List.nodup_cons.mp distinct).1 old
          · exact fresh (List.mem_cons.mpr (Or.inl (List.mem_singleton.mp new).symm))
        have rest : kept records (records ++ [record]) = records := by
          apply kept_of_subset
          intro other member
          exact List.mem_map_of_mem (List.mem_append_left _ member)
        rw [List.tail_cons, kept, List.filter_cons_of_neg (by simpa using headGone)]
        exact rest.symm

/-- A new record that counts adds one to what is left of the others. -/
theorem runningFrom_push {capacity : Nat} {records : List Record} {record : Record}
    (distinct : (records.map Record.id).Nodup) (fresh : record.id ∉ records.map Record.id)
    (running : record.isRunning = true) (counts : first ≤ record.id) :
    runningFrom first (push capacity records record) =
      runningFrom first (kept records (push capacity records record)) + 1 := by
  have alone : runningFrom first [record] = 1 := by
    simp [runningFrom, running, counts]
  calc runningFrom first (push capacity records record)
    _ = runningFrom first (kept records (push capacity records record) ++ [record]) :=
        congrArg (runningFrom first) (kept_push distinct fresh)
    _ = runningFrom first (kept records (push capacity records record)) +
          runningFrom first [record] := List.countP_append
    _ = runningFrom first (kept records (push capacity records record)) + 1 := by rw [alone]

/-- A field that a change leaves as it is stays the same all along the list. -/
theorem map_changeLastRunning {β : Type} (field : Record → β) (pid : Pid)
    {change : Record → Record} (same : ∀ record, field (change record) = field record)
    (records : List Record) :
    (changeLastRunning pid change records).map field = records.map field := by
  induction records with
  | nil => rfl
  | cons record records inductionHypothesis =>
      rw [changeLastRunning]
      split
      · rw [List.map_cons, List.map_cons, inductionHypothesis]
      · split
        · rw [List.map_cons, List.map_cons, same]
        · rfl

/-- The end of the last running record takes one away if the record counts. -/
theorem runningFrom_changeLastRunning {records : List Record} {pid : Pid} {record : Record}
    {change : Record → Record} (last : lastRunning? records pid = some record)
    (stopped : (change record).isRunning = false) :
    runningFrom first (changeLastRunning pid change records) + (if first ≤ record.id then 1 else 0) =
      runningFrom first records := by
  obtain ⟨before, after, rfl, runs, noneAfter⟩ := lastRunning?_eq_some_iff.mp last
  have running := (Record.runsAs_iff.mp runs).2
  rw [changeLastRunning_split change runs noneAfter]
  simp only [runningFrom, List.countP_append, List.countP_cons, stopped, running, Bool.false_and,
    Bool.true_and, decide_eq_true_eq, Bool.false_eq_true, if_false]
  omega

end Records

namespace Monitor

/-- The numbers of the records that some calls remove while they run, in the order in which the
calls remove them. -/
def lostIds (monitor : Monitor) : List Call → List RecordId
  | [] => []
  | call :: calls =>
      let next := (monitor.perform call).monitor
      Records.lost monitor.store.index.records next.store.index.records ++ next.lostIds calls

end Monitor

namespace Roster

/-! ## Numbers -/

variable {roster : Roster}

/-- No two records of a roster share a number. -/
theorem Numbered.nodup (numbered : roster.Numbered) : (roster.records.map Record.id).Nodup :=
  numbered.ascending.imp Nat.ne_of_lt

/-- The next number is not in use. -/
theorem Numbered.fresh (numbered : roster.Numbered) :
    roster.nextId ∉ roster.records.map Record.id := by
  intro member
  obtain ⟨record, inside, same⟩ := List.mem_map.mp member
  exact Nat.ne_of_lt (numbered.below record inside) same

/-- Numbers are given out upwards. -/
theorem nextId_le_undergo (roster : Roster) (change : Monitor.Change) :
    roster.nextId ≤ (roster.undergo change).nextId := by
  cases change with
  | start pid parent name =>
      apply Nat.le_trans ?_ (Nat.le_of_eq (roster.nextId_start pid parent name).symm)
      split
      · exact Nat.le_succ _
      · exact Nat.le_refl _
  | exit pid code usage => exact Nat.le_of_eq (nextId_exit roster pid code usage).symm
  | _ => exact Nat.le_refl _

/-- What the end of a record does not touch stays the same for all records. -/
theorem map_exit {β : Type} (field : Record → β)
    (same : ∀ record time code usage, field (Record.ended record time code usage) = field record)
    (roster : Roster) (pid : Pid) (code : ExitCode) (usage : Usage) :
    (roster.exit pid code usage).records.map field = roster.records.map field := by
  rcases roster.exit_cases pid code usage with ⟨-, same⟩ | ⟨record, recording, last, -⟩
  · rw [same]
  · rw [exit_of_tracked code usage recording last]
    apply Records.map_changeLastRunning
    exact fun record => same record _ _ _

/-- An exit changes no number. -/
theorem map_id_exit (roster : Roster) (pid : Pid) (code : ExitCode) (usage : Usage) :
    (roster.exit pid code usage).records.map Record.id = roster.records.map Record.id :=
  map_exit Record.id (fun _ _ _ _ => rfl) roster pid code usage

/-- A change keeps old numbers or takes the next one. -/
theorem mem_ids_undergo {change : Monitor.Change} {id : RecordId}
    (member : id ∈ (roster.undergo change).records.map Record.id) :
    id ∈ roster.records.map Record.id ∨ id = roster.nextId := by
  cases change with
  | start pid parent name =>
      cases recording : roster.monitoring with
      | false =>
          rw [undergo, start_of_paused parent name recording] at member
          exact Or.inl member
      | true =>
          rw [undergo, start_of_recording parent name recording] at member
          obtain ⟨record, inside, rfl⟩ := List.mem_map.mp member
          rcases Records.mem_of_mem_push inside with old | rfl
          · exact Or.inl (List.mem_map_of_mem old)
          · exact Or.inr rfl
  | exit pid code usage =>
      left
      rw [← map_id_exit roster pid code usage]
      exact member
  | clear => cases member
  | _ => exact Or.inl member

/-! ## The balance -/

/-- The running processes that the counters know of are those whose records are held and those whose
records were lost.  A lost record does not come back. -/
structure Balances (roster : Roster) (lost : List RecordId) : Prop where
  current : roster.stats.current =
    Records.runningFrom roster.firstCounted roster.records + lost.countP (roster.firstCounted ≤ ·)
  below : ∀ id ∈ lost, id < roster.nextId
  gone : ∀ id ∈ lost, id ∉ roster.records.map Record.id
  once : lost.Nodup

namespace Balances

variable {lost : List RecordId}

/-- Before the first call nothing runs and nothing is lost. -/
theorem create (options : Store.Options) (time : Timestamp) :
    (Roster.create options time).Balances [] where
  current := rfl
  below := by
    intro id member
    cases member
  gone := by
    intro id member
    cases member
  once := List.nodup_nil

/-- A start may make room for its record by dropping a running one, which is lost then. -/
theorem start (balances : roster.Balances lost) (numbered : roster.Numbered)
    (recording : roster.monitoring = true) (pid parent : Pid) (name : CommandName) :
    (roster.start pid parent name).2.stats.current =
      Records.runningFrom roster.firstCounted (roster.start pid parent name).2.records +
        (lost ++ Records.lost roster.records
          (roster.start pid parent name).2.records).countP (roster.firstCounted ≤ ·) := by
  rw [start_of_recording parent name recording]
  let record := Record.started roster.nextId pid parent name roster.clock.now
  let after := Records.push roster.capacity roster.records record
  have added : Records.runningFrom roster.firstCounted after =
      Records.runningFrom roster.firstCounted (Records.kept roster.records after) + 1 :=
    Records.runningFrom_push numbered.nodup numbered.fresh rfl numbered.firstCounted_le
  have parted := Records.runningFrom_eq_kept_add_lost roster.firstCounted roster.records after
  have current := balances.current
  show roster.stats.current + 1 = Records.runningFrom roster.firstCounted after +
    (lost ++ Records.lost roster.records after).countP (roster.firstCounted ≤ ·)
  rw [List.countP_append]
  omega

/-- An exit that counts finds a process counted as running. -/
theorem current_pos (balances : roster.Balances lost) {record : Record}
    (member : record ∈ roster.records) (running : record.isRunning = true)
    (counts : roster.firstCounted ≤ record.id) : 0 < roster.stats.current := by
  have held : 0 < Records.runningFrom roster.firstCounted roster.records := by
    apply List.countP_pos_iff.mpr
    exact ⟨record, member, by simp [running, counts]⟩
  rw [balances.current]
  exact Nat.add_pos_left held _

/-- An exit takes a record out of the held ones that run, and out of the counters if it counts. -/
theorem exit (balances : roster.Balances lost) (recording : roster.monitoring = true) {pid : Pid}
    {record : Record} (last : Records.lastRunning? roster.records pid = some record)
    (code : ExitCode) (usage : Usage) :
    (roster.exit pid code usage).stats.current =
      Records.runningFrom roster.firstCounted (roster.exit pid code usage).records +
        lost.countP (roster.firstCounted ≤ ·) := by
  obtain ⟨member, runs⟩ := Records.runsAs_of_lastRunning? last
  have running := (Record.runsAs_iff.mp runs).2
  let ending := fun record : Record => record.ended roster.clock.now code usage
  have held : Records.runningFrom roster.firstCounted
      (Records.changeLastRunning pid ending roster.records) +
        (if roster.firstCounted ≤ record.id then 1 else 0) =
      Records.runningFrom roster.firstCounted roster.records :=
    Records.runningFrom_changeLastRunning last rfl
  have current := balances.current
  rw [exit_of_tracked code usage recording last]
  show (roster.countExit (ending record) usage).current =
    Records.runningFrom roster.firstCounted
        (Records.changeLastRunning pid ending roster.records) +
      lost.countP (roster.firstCounted ≤ ·)
  have same : (ending record).id = record.id := rfl
  rw [Roster.countExit, same]
  by_cases counts : roster.firstCounted ≤ record.id
  · have positive := balances.current_pos member running counts
    rw [if_pos counts] at held
    rw [if_pos counts]
    show roster.stats.current - 1 = _
    omega
  · rw [if_neg counts] at held
    rw [if_neg counts]
    omega

/-- What was there before a reset counts no longer, held or lost. -/
theorem resetStatistics (balances : roster.Balances lost) (numbered : roster.Numbered) :
    roster.resetStatistics.stats.current =
      Records.runningFrom roster.resetStatistics.firstCounted roster.resetStatistics.records +
        lost.countP (roster.resetStatistics.firstCounted ≤ ·) := by
  have held : Records.runningFrom roster.nextId roster.records = 0 := by
    apply List.countP_eq_zero.mpr
    intro record member
    have below := numbered.below record member
    simp only [Bool.and_eq_true, decide_eq_true_eq, not_and]
    intro _
    exact Nat.not_le.mpr below
  have gone : lost.countP (roster.nextId ≤ ·) = 0 := by
    apply List.countP_eq_zero.mpr
    intro id member
    simpa using balances.below id member
  show 0 = Records.runningFrom roster.nextId roster.records + lost.countP (roster.nextId ≤ ·)
  rw [held, gone]

/-- Nothing is lost by a change that keeps all numbers. -/
theorem current_of_kept {after : Roster}
    (ids : after.records.map Record.id = roster.records.map Record.id)
    (current : after.stats.current = Records.runningFrom after.firstCounted after.records +
      lost.countP (after.firstCounted ≤ ·)) :
    after.stats.current = Records.runningFrom after.firstCounted after.records +
      (lost ++ Records.lost roster.records after.records).countP (after.firstCounted ≤ ·) := by
  have nothing : Records.lost roster.records after.records = [] := by
    apply Records.lost_of_subset
    intro record member
    rw [ids]
    exact List.mem_map_of_mem member
  rw [nothing, List.append_nil]
  exact current

/-- Each change moves a running process from the held ones to the lost ones, or takes it out of
both, as the counters do. -/
theorem current_undergo (balances : roster.Balances lost) (numbered : roster.Numbered)
    (change : Monitor.Change) :
    (roster.undergo change).stats.current =
      Records.runningFrom (roster.undergo change).firstCounted (roster.undergo change).records +
        (lost ++ Records.lost roster.records (roster.undergo change).records).countP
          ((roster.undergo change).firstCounted ≤ ·) := by
  cases change with
  | start pid parent name =>
      cases recording : roster.monitoring with
      | false =>
          rw [undergo, start_of_paused parent name recording]
          exact current_of_kept rfl balances.current
      | true =>
          have first : (roster.start pid parent name).2.firstCounted = roster.firstCounted := by
            rw [start_of_recording parent name recording]
          rw [undergo, first]
          exact balances.start numbered recording pid parent name
  | exit pid code usage =>
      apply current_of_kept (map_id_exit roster pid code usage)
      rcases roster.exit_cases pid code usage with ⟨-, same⟩ | ⟨record, recording, last, -⟩
      · rw [same]
        exact balances.current
      · have first : (roster.exit pid code usage).firstCounted = roster.firstCounted := by
          rw [exit_of_tracked code usage recording last]
        rw [first]
        exact balances.exit recording last code usage
  | clear =>
      have parted := Records.runningFrom_eq_kept_add_lost roster.firstCounted roster.records []
      rw [Records.kept_nil] at parted
      show roster.stats.current = Records.runningFrom roster.firstCounted [] +
        (lost ++ Records.lost roster.records []).countP (roster.firstCounted ≤ ·)
      rw [List.countP_append, balances.current]
      omega
  | resetStatistics => exact current_of_kept rfl (balances.resetStatistics numbered)
  | _ => exact current_of_kept rfl balances.current

/-- A change keeps the balance, and what it loses is lost for good. -/
theorem undergo (balances : roster.Balances lost) (numbered : roster.Numbered)
    (change : Monitor.Change) :
    (roster.undergo change).Balances
      (lost ++ Records.lost roster.records (roster.undergo change).records) := by
  constructor
  case current => exact balances.current_undergo numbered change
  case below =>
    intro id member
    apply Nat.lt_of_lt_of_le ?_ (roster.nextId_le_undergo change)
    rcases List.mem_append.mp member with old | new
    · exact balances.below id old
    · obtain ⟨record, inside, rfl⟩ := List.mem_map.mp (Records.lost_subset new)
      exact numbered.below record inside
  case gone =>
    intro id member
    rcases List.mem_append.mp member with old | new
    · intro back
      rcases mem_ids_undergo back with held | rfl
      · exact balances.gone id old held
      · exact Nat.lt_irrefl _ (balances.below _ old)
    · exact (Records.mem_lost.mp new).2
  case once =>
    apply List.nodup_append.mpr
    refine ⟨balances.once, Records.nodup_lost numbered.nodup, ?_⟩
    rintro id old other new rfl
    exact balances.gone id old (Records.lost_subset new)

/-- A roster that pictures a monitor keeps the balance of all that the monitor loses. -/
theorem after {monitor : Monitor} (balances : roster.Balances lost)
    (pictures : roster.Pictures monitor) (calls : List Monitor.Call) :
    (roster.after calls).Balances (lost ++ monitor.lostIds calls) := by
  induction calls generalizing roster monitor lost with
  | nil =>
      rw [Monitor.lostIds, List.append_nil]
      exact balances
  | cons call calls inductionHypothesis =>
      have next := pictures.undergo call.change
      have step := balances.undergo pictures.models.numbered call.change
      rw [← pictures.models.records, ← next.models.records] at step
      rw [Roster.after_cons, Monitor.lostIds, Monitor.perform_monitor, ← List.append_assoc]
      exact inductionHypothesis step next

end Balances

/-! ## The store behind the roster -/

namespace Models

variable {store : Store}

/-- The marks of the entries tell the same records apart as their numbers do. -/
theorem countP_oldestFirst (models : roster.Models store) :
    (store.index.oldestFirst.countP fun entry =>
        entry.record.isRunning && entry.epoch = store.epoch) =
      Records.runningFrom roster.firstCounted roster.records := by
  rw [← models.records, Records.runningFrom, Index.records, List.countP_map]
  apply List.countP_congr
  intro entry member
  obtain ⟨id, -, found⟩ := List.mem_filterMap.mp member
  have own := models.coherent.own id entry found
  have mark := (models.marked id entry found).2
  simp [mark, own]

/-- No entry has a mark that is still to come. -/
theorem epoch_le (models : roster.Models store) {entry : Entry}
    (member : entry ∈ store.index.oldestFirst) : entry.epoch ≤ store.epoch := by
  obtain ⟨id, -, found⟩ := List.mem_filterMap.mp member
  exact (models.marked id entry found).1

end Models

end Roster

/-! ## A monitor from its start -/

namespace Monitor

/-- At every moment the counter of running processes is the number of held records that run and have
the present mark, and of records added since the counters were last zero that were removed while they
ran.  No held record has a later mark, and an exit that counts finds a process counted as running. -/
theorem current_eq_held_add_lost (options : Store.Options) (time : Timestamp)
    (calls : List Call) :
    let monitor := (create options time).1.after calls
    let store := monitor.store
    let since := ((create options time).1.history calls).sinceReset
    let lost := ((create options time).1.lostIds calls).filter fun id => id ∈ since.startedIds
    store.stats.current =
        (store.index.oldestFirst.countP fun entry =>
          entry.record.isRunning && entry.epoch = store.epoch) + lost.length ∧
      lost.Nodup ∧
      (∀ entry ∈ store.index.oldestFirst, entry.epoch ≤ store.epoch) ∧
      ∀ call, (monitor.perform call).monitor.store.stats.exited = store.stats.exited + 1 →
        1 ≤ store.stats.current := by
  intro monitor store since lost
  have start := Roster.Pictures.create options time
  have pictures := start.after calls
  have models : ((Roster.create options time).after calls).Models store := pictures.models
  have empty : (Roster.create options time).Accounts (History.sinceReset []) :=
    Roster.Accounts.of_reset rfl rfl
  have accounts : ((Roster.create options time).after calls).Accounts since :=
    empty.after start calls
  have balances : ((Roster.create options time).after calls).Balances
      ((create options time).1.lostIds calls) :=
    (Roster.Balances.create options time).after start calls
  have length : lost.length = ((create options time).1.lostIds calls).countP
      (((Roster.create options time).after calls).firstCounted ≤ ·) := by
    rw [← List.countP_eq_length_filter]
    apply List.countP_congr
    intro id member
    have below := balances.below id member
    simp [accounts.started_iff, below]
  refine ⟨?_, balances.once.filter _, fun entry member => models.epoch_le member, ?_⟩
  · rw [models.countP_oldestFirst, length, models.stats]
    exact balances.current
  · intro call counted
    have next := (pictures.undergo call.change).models.stats
    rw [perform_monitor, next, Roster.stats_undergo, models.stats] at counted
    rw [models.stats]
    cases happens : ((Roster.create options time).after calls).happening? call.change with
    | none =>
        rw [happens] at counted
        exact absurd counted (Nat.ne_of_lt (Nat.lt_succ_self _))
    | some happening =>
        rw [happens] at counted
        cases happening with
        | started id => exact absurd counted (Nat.ne_of_lt (Nat.lt_succ_self _))
        | reset => cases counted
        | retired ended =>
            obtain ⟨record, member, running, same⟩ := Roster.exists_running happens
            apply balances.current_pos member running
            by_contra old
            simp only [Roster.countExit, ← same, if_neg old] at counted
            exact absurd counted (Nat.ne_of_lt (Nat.lt_succ_self _))

/-- Of two records a full store has dropped one that ran, and the exit of the other one counts. -/
theorem current_eq_held_add_lost_of_eviction :
    let calls : List Call := [.start 7 1 "sh", .start 8 1 "sh"]
    let monitor := (create { capacity := 1 } 5).1.after calls
    monitor.store.stats.current = 2 ∧ (create { capacity := 1 } 5).1.lostIds calls = [1] ∧
      (monitor.perform (.exit 8 0 {})).monitor.store.stats.exited =
        monitor.store.stats.exited + 1 ∧
      1 ≤ monitor.store.stats.current :=
  ⟨rfl, rfl, rfl, (current_eq_held_add_lost { capacity := 1 } 5
    [.start 7 1 "sh", .start 8 1 "sh"]).2.2.2 (.exit 8 0 {}) rfl⟩

end Monitor

end ProcessWatch
