/-
Module: ProcessWatch.Proofs.Roster.Control
Purpose: To give an order twice is to give it once, and the order of orders does not matter, for
  everyone who looks at a monitor from outside.
Trusted boundary: calls meet enough memory, for which Proofs.Roster.Memory gives a condition
Main exports: Monitor.Indistinguishable, Roster.Pictures.indistinguishable, Roster.obey_twice,
  Roster.obey_comm, Monitor.orders_settle

Two resets of the counters leave the store with a higher mark than one.  Nobody sees the mark itself,
but only which records carry the present one, and a roster tells these by their numbers.  So two
monitors that one roster pictures cannot be told apart.
-/
import ProcessWatch.Proofs.Roster.Conservation

namespace ProcessWatch

open Monitor (Call Change)

/-- What is logged of a start depends on the store through its filter alone. -/
theorem Store.startLog_congr {first second : Store} (filter : first.filter = second.filter)
    (result : StartResult) : first.startLog result = second.startLog result := by
  cases result <;> simp only [startLog, filter]

theorem Store.exitLog_congr {first second : Store} (filter : first.filter = second.filter)
    (pid : Pid) (result : ExitResult) : first.exitLog pid result = second.exitLog pid result := by
  cases result <;> simp only [exitLog, filter]

/-- Whatever is asked of both, and whenever, they give the same answers and log the same. -/
def Monitor.Indistinguishable (first second : Monitor) : Prop :=
  ∀ calls, first.answers calls = second.answers calls ∧ first.log calls = second.log calls

namespace Roster

/-! ## Two stores and one roster -/

namespace Models

variable {roster : Roster} {first second : Store}

theorem start_log_eq (one : roster.Models first) (two : roster.Models second) (pid parent : Pid)
    (name : String) :
    (first.start roster.clock.now pid parent name).log =
      (second.start roster.clock.now pid parent name).log := by
  obtain ⟨result, modelsOne⟩ := one.commitStart pid parent (CommandName.ofString name)
  obtain ⟨resultToo, modelsTwo⟩ := two.commitStart pid parent (CommandName.ofString name)
  rw [Store.start_log, Store.start_log, result, resultToo]
  exact Store.startLog_congr (modelsOne.filter.trans modelsTwo.filter.symm) _

theorem exit_log_eq (one : roster.Models first) (two : roster.Models second) (pid : Pid)
    (code : ExitCode) (usage : Usage) :
    (first.exit roster.clock.now pid code usage).log =
      (second.exit roster.clock.now pid code usage).log := by
  obtain ⟨result, modelsOne⟩ := one.commitExit pid code usage
  obtain ⟨resultToo, modelsTwo⟩ := two.commitExit pid code usage
  rw [Store.exit_log, Store.exit_log, result, resultToo]
  exact Store.exitLog_congr (modelsOne.filter.trans modelsTwo.filter.symm) _ _

/-- A question for an interval of starts is answered from the records, whatever their numbers. -/
theorem listStartedWithin_congr (one : roster.Models first) (two : roster.Models second)
    (range : Interval Timestamp) (limit : Nat) :
    first.listStartedWithin range limit = second.listStartedWithin range limit := by
  have records : first.index.records = second.index.records :=
    one.records.trans two.records.symm
  rw [Store.listStartedWithin, Store.listStartedWithin, two.collect_eq limit rfl]
  exact one.collect_eq limit
    (one.coherent.map_record_startedWithin_congr two.coherent records range)

end Models

/-! ## Two monitors and one roster -/

namespace Pictures

variable {roster : Roster} {first second : Monitor}

theorem answer_eq (one : roster.Pictures first) (two : roster.Pictures second) (call : Call) :
    (first.perform call).answer = (second.perform call).answer := by
  by_cases within : ∃ range limit, call = .listStartedWithin range limit
  · obtain ⟨range, limit, rfl⟩ := within
    exact congrArg Monitor.Answer.listing (one.models.listStartedWithin_congr two.models range limit)
  · have bound : ∀ range limit, call = .listStartedWithin range limit →
        roster.nextId ≤ Word.size :=
      fun range limit same => absurd ⟨range, limit, same⟩ within
    exact (one.answer_of_bound call bound).trans (two.answer_of_bound call bound).symm

theorem log_eq (one : roster.Pictures first) (two : roster.Pictures second) (call : Call) :
    (first.perform call).log = (second.perform call).log := by
  obtain ⟨clock, models⟩ := one
  obtain ⟨clockToo, modelsToo⟩ := two
  have now : first.clock.now = roster.clock.now := congrArg Clock.now clock.symm
  have nowToo : second.clock.now = roster.clock.now := congrArg Clock.now clockToo.symm
  have size : first.store.size = second.store.size := models.size_eq.trans modelsToo.size_eq.symm
  have stats : first.store.stats = second.store.stats := models.stats.trans modelsToo.stats.symm
  have started := models.start_log_eq modelsToo
  have ended := models.exit_log_eq modelsToo
  cases call with
  | start pid parent name =>
      show (first.store.start first.clock.now pid parent name).log = _
      rw [now, started, ← nowToo]
      rfl
  | exit pid code usage =>
      show (first.store.exit first.clock.now pid code usage).log = _
      rw [now, ended, ← nowToo]
      rfl
  | deliver event =>
      cases event with
      | start pid parent name =>
          show (first.store.start first.clock.now pid parent name.text).log = _
          rw [now, started, ← nowToo]
          rfl
      | exit pid code usage =>
          show (first.store.exit first.clock.now pid code usage).log = _
          rw [now, ended, ← nowToo]
          rfl
  | clear => exact congrArg (fun size => [LogEvent.recordsCleared size]) size
  | shutdown =>
      exact congrArg (fun stats => [LogEvent.storeClosed stats.created stats.exited]) stats
  | obey order =>
      cases order with
      | clear => exact congrArg (fun size => [LogEvent.recordsCleared size]) size
      | _ => rfl
  | askFilter call =>
      show (first.store.filter.perform call).log = (second.store.filter.perform call).log
      rw [models.filter, modelsToo.filter]
  | _ => rfl

/-- Monitors that one roster pictures cannot be told apart. -/
theorem indistinguishable (one : roster.Pictures first) (two : roster.Pictures second) :
    first.Indistinguishable second := by
  intro calls
  induction calls generalizing roster first second with
  | nil => exact ⟨rfl, rfl⟩
  | cons call calls inductionHypothesis =>
      obtain ⟨answers, log⟩ :=
        inductionHypothesis (one.undergo call.change) (two.undergo call.change)
      rw [Monitor.answers_cons, Monitor.answers_cons, Monitor.log_cons, Monitor.log_cons, answers,
        log, one.answer_eq two call, one.log_eq two call]
      exact ⟨rfl, rfl⟩

end Pictures

/-! ## Orders -/

/-- The roster after an order. -/
def obey (roster : Roster) (order : Control) : Roster :=
  roster.undergo (Call.obey order).change

theorem obey_twice (roster : Roster) (order : Control) :
    (roster.obey order).obey order = roster.obey order := by
  cases order <;> rfl

/-- Only to start and to stop the recording are at odds. -/
theorem obey_comm (roster : Roster) {first second : Control}
    (agree : ¬ (first = .start ∧ second = .stop))
    (agreeToo : ¬ (first = .stop ∧ second = .start)) :
    (roster.obey first).obey second = (roster.obey second).obey first := by
  cases first <;> cases second
  case start.stop => exact absurd ⟨rfl, rfl⟩ agree
  case stop.start => exact absurd ⟨rfl, rfl⟩ agreeToo
  all_goals rfl

theorem after_orders (roster : Roster) (orders : List Control) :
    roster.after (orders.map Call.obey) = orders.foldl obey roster := by
  induction orders generalizing roster with
  | nil => rfl
  | cons order orders inductionHypothesis =>
      rw [List.map_cons, after_cons, List.foldl_cons]
      exact inductionHypothesis _

/-- Orders may be given in any other order, if they do not both start and stop the recording. -/
theorem after_orders_perm (roster : Roster) {orders others : List Control}
    (perm : orders.Perm others) (agree : ¬ (.start ∈ orders ∧ .stop ∈ orders)) :
    roster.after (orders.map Call.obey) = roster.after (others.map Call.obey) := by
  rw [after_orders, after_orders]
  apply perm.foldl_eq'
  intro first firstGiven second secondGiven midway
  apply obey_comm
  · intro opposed
    obtain ⟨rfl, rfl⟩ := opposed
    exact agree ⟨firstGiven, secondGiven⟩
  · intro opposed
    obtain ⟨rfl, rfl⟩ := opposed
    exact agree ⟨secondGiven, firstGiven⟩

end Roster

namespace Monitor

/-- In every state it makes no difference whether an order is given once or twice, and in which order
orders are given that do not both start and stop the recording.  A second reset of the counters only
raises the mark, which nobody sees. -/
theorem orders_settle (options : Store.Options) (time : Timestamp) (past : List Call) :
    let monitor := (create options time).1.after past
    (∀ order, (monitor.after [.obey order, .obey order]).Indistinguishable
        (monitor.after [.obey order])) ∧
      (∀ orders others : List Control, orders.Perm others →
        ¬ (.start ∈ orders ∧ .stop ∈ orders) →
          (monitor.after (orders.map .obey)).Indistinguishable
            (monitor.after (others.map .obey))) ∧
      (monitor.after [.obey .resetStatistics, .obey .resetStatistics]).store.epoch =
        (monitor.after [.obey .resetStatistics]).store.epoch + 1 := by
  intro monitor
  let roster := (Roster.create options time).after past
  have pictures : roster.Pictures monitor := (Roster.Pictures.create options time).after past
  refine ⟨?_, ?_, rfl⟩
  · intro order
    have twice : roster.after [.obey order, .obey order] = roster.after [.obey order] := by
      rw [Roster.after_cons, Roster.after_cons, Roster.after_nil, Roster.after_cons,
        Roster.after_nil]
      exact roster.obey_twice order
    have picturesTwice := pictures.after [.obey order, .obey order]
    rw [twice] at picturesTwice
    exact picturesTwice.indistinguishable (pictures.after [.obey order])
  · intro orders others perm agree
    have picturesOrders := pictures.after (orders.map Call.obey)
    rw [roster.after_orders_perm perm agree] at picturesOrders
    exact picturesOrders.indistinguishable (pictures.after (others.map Call.obey))

/-- Process 7 runs when the orders come. -/
theorem orders_settle_of_running :
    let monitor := (create { capacity := 1 } 5).1.after [.start 7 1 "sh"]
    let orders : List Control := [.resetStatistics, .stop, .clear]
    let others : List Control := [.clear, .resetStatistics, .stop]
    orders.Perm others ∧ ¬ (.start ∈ orders ∧ .stop ∈ orders) ∧
      (monitor.after (orders.map .obey)).Indistinguishable (monitor.after (others.map .obey)) :=
  ⟨by decide, by decide,
    (orders_settle { capacity := 1 } 5 [.start 7 1 "sh"]).2.1 [.resetStatistics, .stop, .clear]
      [.clear, .resetStatistics, .stop] (by decide) (by decide)⟩

end Monitor

end ProcessWatch
