/-
Module: ProcessWatch.Proofs.Roster.Renumbering
Purpose: Nothing depends on how high the record numbers are or on when a store was created, so that an
  emptied store with zeroed counters is as good as a new one.
Trusted boundary: calls meet enough memory, for which Proofs.Roster.Memory gives a condition
Main exports: Record.renumber, Monitor.Answer.relocate, Roster.relocate, Roster.undergo_relocate,
  Roster.answer_relocate, Monitor.answer_after_clear_reset

Numbers are only compared with each other, so that all of them may be higher by the same amount.  The
one bound that they have is the width of a word, at which the keys of the start order end.
-/
import ProcessWatch.Proofs.Roster.Simulation

namespace ProcessWatch

/-- The record with a number that is higher by `shift`. -/
def Record.renumber (shift : Nat) (record : Record) : Record :=
  { record with id := record.id + shift }

/-- The listing with record numbers that are higher by `shift`. -/
def Listing.renumber (shift : Nat) (result : Listing) : Listing :=
  { result with records := result.records.map (Record.renumber shift) }

/-- The choices with which a new store is like this one. -/
def Store.options (store : Store) : Store.Options where
  capacity := store.capacity
  filter := store.filter
  monitoring := store.monitoring

/-- The answer with record numbers that are higher by `shift` and with another uptime. -/
def Monitor.Answer.relocate (shift : Nat) (uptime : Duration) : Monitor.Answer → Monitor.Answer
  | .started id => .started (id.map (· + shift))
  | .listing result => .listing (result.renumber shift)
  | .record found => .record (found.map (Record.renumber shift))
  | .snapshot view => .snapshot { view with uptime := uptime }
  | answer => answer

/-! ## Lists of records -/

namespace Records

variable (shift : Nat)

/-- Making room looks at no numbers. -/
theorem push_renumber (capacity : Nat) (records : List Record) (record : Record) :
    push capacity (records.map (Record.renumber shift)) (record.renumber shift) =
      (push capacity records record).map (Record.renumber shift) := by
  rw [push, push, List.length_map, List.map_append]
  split
  · rw [List.map_tail]
    rfl
  · rfl

theorem lastRunning?_renumber (records : List Record) (pid : Pid) :
    lastRunning? (records.map (Record.renumber shift)) pid =
      (lastRunning? records pid).map (Record.renumber shift) := by
  rw [lastRunning?, lastRunning?, List.filter_map, List.getLast?_map]
  rfl

/-- Numbers that all rise alike keep their order. -/
theorem inStartOrder_renumber (records : List Record) :
    inStartOrder (records.map (Record.renumber shift)) =
      (inStartOrder records).map (Record.renumber shift) := by
  apply Eq.symm
  apply List.map_mergeSort
  intro first _ second _
  apply Bool.eq_iff_iff.mpr
  rw [Record.startsNoLater_iff, Record.startsNoLater_iff]
  apply or_congr Iff.rfl
  apply and_congr Iff.rfl
  exact Nat.add_le_add_iff_right.symm

end Records

/-! ## Rosters -/

namespace Roster

/-- The roster with record numbers that are higher by `shift`, created at `origin`. -/
def relocate (shift : Nat) (origin : Timestamp) (roster : Roster) : Roster :=
  { roster with
    records := roster.records.map (Record.renumber shift)
    nextId := roster.nextId + shift
    firstCounted := roster.firstCounted + shift
    origin := origin }

variable (shift : Nat) (origin : Timestamp) (roster : Roster)

/-- Without records and with zeroed counters, a roster is a new one with higher numbers. -/
theorem relocate_create (options : Store.Options) (positive : 0 < roster.nextId)
    (capacity : max options.capacity 1 = roster.capacity) (filter : options.filter = roster.filter)
    (monitoring : options.monitoring = roster.monitoring) :
    (Roster.create options roster.clock.now).relocate (roster.nextId - 1) roster.origin =
      roster.clear.resetStatistics := by
  have next : 1 + (roster.nextId - 1) = roster.nextId := Nat.add_sub_cancel' positive
  simp only [relocate, create, clear, resetStatistics, capacity, filter, monitoring, next,
    List.map_nil]

/-- A start with higher numbers gives out a higher number and is otherwise the same. -/
theorem start_relocate (pid parent : Pid) (name : CommandName) :
    (roster.relocate shift origin).start pid parent name =
      ((roster.start pid parent name).1.map (· + shift),
        (roster.start pid parent name).2.relocate shift origin) := by
  cases recording : roster.monitoring with
  | false =>
      have paused : (roster.relocate shift origin).monitoring = false := recording
      rw [start_of_paused parent name recording, start_of_paused parent name paused]
      rfl
  | true =>
      have recordingToo : (roster.relocate shift origin).monitoring = true := recording
      let record := Record.started roster.nextId pid parent name roster.clock.now
      have records := Records.push_renumber shift roster.capacity roster.records record
      have next : roster.nextId + shift + 1 = roster.nextId + 1 + shift :=
        Nat.add_right_comm _ _ _
      rw [start_of_recording parent name recording, start_of_recording parent name recordingToo]
      apply Prod.ext
      · rfl
      · show ({ roster with
            records := Records.push roster.capacity (roster.records.map (Record.renumber shift))
              (record.renumber shift)
            nextId := roster.nextId + shift + 1
            firstCounted := roster.firstCounted + shift
            stats := roster.stats.onStart
            origin := origin } : Roster) = _
        rw [records, next]
        rfl

/-- Whether an exit counts does not depend on how high the numbers are. -/
theorem countExit_relocate (record : Record) (usage : Usage) :
    (roster.relocate shift origin).countExit (record.renumber shift) usage =
      roster.countExit record usage := by
  have same : (roster.relocate shift origin).firstCounted ≤ (record.renumber shift).id ↔
      roster.firstCounted ≤ record.id := Nat.add_le_add_iff_right
  simp only [countExit, same]
  rfl

theorem exit_relocate (pid : Pid) (code : ExitCode) (usage : Usage) :
    (roster.relocate shift origin).exit pid code usage =
      (roster.exit pid code usage).relocate shift origin := by
  have lastToo : Records.lastRunning? (roster.relocate shift origin).records pid =
      (Records.lastRunning? roster.records pid).map (Record.renumber shift) :=
    Records.lastRunning?_renumber shift roster.records pid
  cases recording : roster.monitoring with
  | false =>
      have paused : (roster.relocate shift origin).monitoring = false := recording
      rw [exit_of_paused code usage recording, exit_of_paused code usage paused]
  | true =>
      have recordingToo : (roster.relocate shift origin).monitoring = true := recording
      cases last : Records.lastRunning? roster.records pid with
      | none =>
          rw [last] at lastToo
          rw [exit_of_untracked code usage last, exit_of_untracked code usage lastToo]
      | some record =>
          rw [last] at lastToo
          let ending := fun record : Record => record.ended roster.clock.now code usage
          have records : Records.changeLastRunning pid ending
                (roster.records.map (Record.renumber shift)) =
              (Records.changeLastRunning pid ending roster.records).map
                (Record.renumber shift) := by
            apply Records.changeLastRunning_map
            · intro other
              rfl
            · intro other
              rfl
          have stats := roster.countExit_relocate shift origin (ending record) usage
          rw [exit_of_tracked code usage recording last,
            exit_of_tracked code usage recordingToo lastToo]
          show ({ roster.relocate shift origin with
              records := Records.changeLastRunning pid ending
                (roster.records.map (Record.renumber shift))
              stats := (roster.relocate shift origin).countExit
                ((ending record).renumber shift) usage } : Roster) = _
          rw [records, stats]
          rfl

theorem undergo_relocate (change : Monitor.Change) :
    (roster.relocate shift origin).undergo change =
      (roster.undergo change).relocate shift origin := by
  cases change with
  | start pid parent name => exact congrArg Prod.snd (roster.start_relocate shift origin _ _ _)
  | exit pid code usage => exact roster.exit_relocate shift origin pid code usage
  | _ => rfl

theorem after_relocate (calls : List Monitor.Call) :
    (roster.relocate shift origin).after calls = (roster.after calls).relocate shift origin := by
  induction calls generalizing roster with
  | nil => rfl
  | cons call calls inductionHypothesis =>
      rw [after_cons, after_cons, undergo_relocate]
      exact inductionHypothesis _

/-! ## Answers -/

/-- A listing shows the same records with higher numbers. -/
theorem listing_relocate (limit : Nat) (candidates : List Record) :
    (roster.relocate shift origin).listing limit (candidates.map (Record.renumber shift)) =
      (roster.listing limit candidates).renumber shift := by
  have matching : (candidates.map (Record.renumber shift)).filter
        (fun record => (roster.relocate shift origin).filter.accepts record.subject) =
      (candidates.filter fun record => roster.filter.accepts record.subject).map
        (Record.renumber shift) := List.filter_map
  simp only [listing, matching, List.length_map, ← List.map_take]
  rfl

/-- The records of an interval come in the same order, since all numbers are higher by the same. -/
theorem startedWithin_relocate (range : Interval Timestamp) :
    (roster.relocate shift origin).startedWithin range =
      (roster.startedWithin range).map (Record.renumber shift) := by
  rw [startedWithin, startedWithin, ← Records.inStartOrder_renumber]
  exact congrArg Records.inStartOrder List.filter_map

@[simp] theorem length_records_relocate :
    (roster.relocate shift origin).records.length = roster.records.length :=
  List.length_map _

theorem recent_relocate (count : Nat) :
    (roster.relocate shift origin).records.drop
        ((roster.relocate shift origin).records.length - count) =
      (roster.records.drop (roster.records.length - count)).map (Record.renumber shift) := by
  rw [length_records_relocate]
  exact List.map_drop.symm

/-- Each call is answered alike, but for the record numbers and the uptime. -/
theorem answer_relocate (call : Monitor.Call) :
    ((roster.relocate shift origin).perform call).1 =
      (roster.perform call).1.relocate shift ⟨roster.clock.now - origin⟩ := by
  have length := roster.length_records_relocate shift origin
  cases call with
  | start pid parent name =>
      exact congrArg (fun result => Monitor.Answer.started result.1)
        (roster.start_relocate shift origin pid parent _)
  | deliver event => cases event <;> rfl
  | list limit =>
      exact congrArg Monitor.Answer.listing (roster.listing_relocate shift origin limit _)
  | listRecent count =>
      apply congrArg Monitor.Answer.listing
      rw [recent_relocate, listing_relocate]
  | listStartedWithin range limit =>
      apply congrArg Monitor.Answer.listing
      rw [startedWithin_relocate, listing_relocate]
  | lookup pid =>
      exact congrArg Monitor.Answer.record (Records.lastRunning?_renumber shift _ pid)
  | isEmpty =>
      apply congrArg Monitor.Answer.flag
      rw [relocate, List.isEmpty_map]
  | size => exact congrArg Monitor.Answer.count length
  | snapshot =>
      apply congrArg Monitor.Answer.snapshot
      rw [snapshot, length]
      rfl
  | status =>
      apply congrArg Monitor.Answer.status
      rw [status, length]
      rfl
  | obey order => cases order <;> rfl
  | _ => rfl

/-! ## Numbers and origins along a run -/

/-- No more numbers are given out than there are starts. -/
theorem nextId_after_le (calls : List Monitor.Call) :
    (roster.after calls).nextId ≤ roster.nextId + calls.countP Monitor.Call.isStart := by
  induction calls generalizing roster with
  | nil => exact Nat.le_refl _
  | cons call calls inductionHypothesis =>
      rw [after_cons, List.countP_cons]
      calc ((roster.undergo call.change).after calls).nextId
        _ ≤ (roster.undergo call.change).nextId + calls.countP Monitor.Call.isStart :=
            inductionHypothesis _
        _ ≤ roster.nextId + (if call.isStart then 1 else 0) +
              calls.countP Monitor.Call.isStart :=
            Nat.add_le_add_right (roster.nextId_undergo_le call) _
        _ = roster.nextId + (calls.countP Monitor.Call.isStart +
              if call.isStart then 1 else 0) := by
            rw [Nat.add_assoc, Nat.add_comm (ite _ _ _)]

/-- As long as there are fewer starts than words, every number fits a word. -/
theorem nextId_after_create_le (options : Store.Options) (time : Timestamp)
    {calls : List Monitor.Call} (few : calls.countP Monitor.Call.isStart < Word.size) :
    ((create options time).after calls).nextId ≤ Word.size := by
  calc ((create options time).after calls).nextId
    _ ≤ 1 + calls.countP Monitor.Call.isStart := nextId_after_le _ calls
    _ = calls.countP Monitor.Call.isStart + 1 := Nat.add_comm _ _
    _ ≤ Word.size := few

end Roster

/-! ## A monitor and a new one -/

namespace Monitor

/-- Emptied and with its counters reset, a monitor answers whatever is asked of it, and whenever, as a
new one does, except that record numbers are higher by a constant and that the uptime counts from the
first creation. -/
theorem answer_after_clear_reset (options : Store.Options) (time : Timestamp)
    (past calls : List Call) (call : Call)
    (few : (past ++ calls).countP Call.isStart < Word.size) :
    let old := (create options time).1.after past
    let emptied := old.after [.clear, .resetStatistics]
    let fresh := (create (old.store.options) old.clock.now).1
    let shift := old.store.index.nextId - 1
    let uptime : Duration := ⟨(emptied.after calls).clock.now - time⟩
    ((emptied.after calls).perform call).answer =
      ((fresh.after calls).perform call).answer.relocate shift uptime := by
  intro old emptied fresh shift uptime
  let roster := (Roster.create options time).after past
  let newRoster := Roster.create (old.store.options) old.clock.now
  have pictures : roster.Pictures old := (Roster.Pictures.create options time).after past
  have models := pictures.models
  have clock : old.clock.now = roster.clock.now := congrArg Clock.now pictures.clock.symm
  have origin : roster.origin = time := Roster.origin_after _ past
  have nextId : old.store.index.nextId = roster.nextId := models.nextId
  have positive : 0 < roster.nextId := by
    rw [← nextId]
    exact Nat.lt_of_le_of_lt (Nat.zero_le _) models.coherent.size_lt
  have emptiedRoster : newRoster.relocate shift time =
      roster.after [.clear, .resetStatistics] := by
    have capacity : max old.store.capacity 1 = roster.capacity := by
      rw [models.capacity]
      exact Nat.max_eq_left models.capacity_pos
    have created := roster.relocate_create old.store.options positive capacity models.filter
      models.monitoring
    rw [origin, ← nextId, ← clock] at created
    exact created
  have picturesEmptied : ((newRoster.after calls).relocate shift time).Pictures
      (emptied.after calls) := by
    rw [← Roster.after_relocate, emptiedRoster]
    exact (pictures.after _).after calls
  have picturesFresh : (newRoster.after calls).Pictures (fresh.after calls) :=
    (Roster.Pictures.create _ _).after calls
  have fewFresh : (newRoster.after calls).nextId + shift ≤ Word.size := by
    have lower : shift ≤ past.countP Call.isStart := by
      apply Nat.sub_le_of_le_add
      rw [nextId, Nat.add_comm]
      exact Roster.nextId_after_le _ past
    have together : 1 + calls.countP Call.isStart + past.countP Call.isStart ≤ Word.size := by
      rw [List.countP_append] at few
      omega
    calc (newRoster.after calls).nextId + shift
      _ ≤ 1 + calls.countP Call.isStart + past.countP Call.isStart :=
          Nat.add_le_add (Roster.nextId_after_le _ calls) lower
      _ ≤ Word.size := together
  have now : (emptied.after calls).clock.now = (newRoster.after calls).clock.now :=
    congrArg Clock.now picturesEmptied.clock.symm
  calc ((emptied.after calls).perform call).answer
    _ = (((newRoster.after calls).relocate shift time).perform call).1 :=
        picturesEmptied.answer fewFresh call
    _ = ((newRoster.after calls).perform call).1.relocate shift uptime := by
        rw [Roster.answer_relocate, ← now]
    _ = ((fresh.after calls).perform call).answer.relocate shift uptime := by
        rw [picturesFresh.answer (Nat.le_trans (Nat.le_add_right _ _) fewFresh) call]

/-- Three records were added before, and nothing of them is left but their numbers. -/
theorem answer_after_clear_reset_of_reuse :
    let past : List Call := [.start 7 1 "sh", .start 7 1 "sh", .start 7 1 "sh", .exit 7 1 {}]
    let calls : List Call := [.start 7 1 "sh"]
    let emptied := ((create { capacity := 2 } 5).1.after past).after [.clear, .resetStatistics]
    (past ++ calls).countP Call.isStart < Word.size ∧
      ((emptied.after calls).perform (.lookup 7)).answer =
        .record (some (Record.started 4 7 1 (CommandName.ofString "sh") 5)) :=
  ⟨by decide,
    (answer_after_clear_reset { capacity := 2 } 5
      [.start 7 1 "sh", .start 7 1 "sh", .start 7 1 "sh", .exit 7 1 {}]
      [.start 7 1 "sh"] (.lookup 7) (by decide)).trans rfl⟩

end Monitor

end ProcessWatch
