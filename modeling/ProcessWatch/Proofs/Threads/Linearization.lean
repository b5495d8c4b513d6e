/-
Module: ProcessWatch.Proofs.Threads.Linearization
Purpose: Threads that share a monitor get the answers of calls made one at a time, and a stop holds
  from the moment it returns.
Trusted boundary: the order of steps of Proofs.Threads.Basic
Main exports: Threads.Precedes, Threads.HasBegun, Threads.Linearizes, Threads.linearizable

Every call takes effect with its last step: an admitted report looks at the flag again under the lock,
and a refused report found the flag down at the very step with which it returns.  So the order in which
the calls return is an order in which they could have been made one at a time.
-/
import ProcessWatch.Proofs.Threads.Basic

namespace ProcessWatch

namespace Threads

variable {ι : Type}

/-- A call had returned before another one began. -/
def Precedes (threads : Threads ι) (earlier later : Completion ι) : Prop :=
  ∃ last first, [last, first].Sublist threads.trace ∧ last.completion? = some earlier ∧
    first.begins = true ∧ first.id = later.id

/-- A call has begun. -/
def HasBegun (threads : Threads ι) (id : CallId ι) : Prop :=
  ∃ first ∈ threads.trace, first.begins = true ∧ first.id = id

theorem HasBegun.mono {threads later : Threads ι} {id : CallId ι} (begun : threads.HasBegun id)
    (grows : threads.trace ⊆ later.trace) : later.HasBegun id :=
  begun.imp fun _ first => ⟨grows first.1, first.2⟩

variable [DecidableEq ι]

/-- The calls of one thread among the calls of all. -/
def ofThread (order : List (Completion ι)) (thread : ι) : List (Completion ι) :=
  order.filter fun completion => completion.id.thread = thread

/-- What has returned could have been called one at a time in this order, beginning with the monitor
`start`. -/
structure Linearizes (start : Monitor) (programs : ι → List Call) (threads : Threads ι)
    (order : List (Completion ι)) : Prop where
  /-- The order is one of the calls that have returned. -/
  completions : order.Perm threads.completions
  answers :
    start.answers (order.map fun completion => completion.call.alone) =
      order.map Completion.answer
  monitor :
    start.after (order.map fun completion => completion.call.alone) = threads.monitor
  /-- A thread has made the calls of its program that it has not left. -/
  calls : ∀ thread,
    (ofThread order thread).map Completion.call ++ (threads.workers thread).calls =
      programs thread
  /-- It has made them one after the other. -/
  numbers : ∀ thread,
    (ofThread order thread).map (fun completion => completion.id.number) =
      List.range (threads.workers thread).returned
  /-- They have begun before they returned. -/
  begun : ∀ completion ∈ order, threads.HasBegun completion.id
  realTime : ∀ earlier ∈ order, ∀ later ∈ order,
    threads.Precedes earlier later → [earlier, later].Sublist order

/-! ## What every step preserves -/

/-- What threads have done agrees with where they and the monitor stand. -/
structure Accounted (start : Monitor) (programs : ι → List Call) (threads : Threads ι) : Prop where
  answers :
    start.answers (threads.completions.map fun completion => completion.call.alone) =
      threads.completions.map Completion.answer
  monitor :
    start.after (threads.completions.map fun completion => completion.call.alone) =
      threads.monitor
  calls : ∀ thread,
    (ofThread threads.completions thread).map Completion.call ++
      (threads.workers thread).calls = programs thread
  numbers : ∀ thread,
    (ofThread threads.completions thread).map (fun completion => completion.id.number) =
      List.range (threads.workers thread).returned
  /-- Nothing is on record of a call that its thread has yet to make. -/
  numbered : ∀ event ∈ threads.trace,
    event.id.number < (threads.workers event.id.thread).returned ∨
      event.id.number = (threads.workers event.id.thread).returned ∧
        (threads.workers event.id.thread).admitted = true
  admitted : ∀ thread, (threads.workers thread).admitted = true →
    threads.HasBegun ⟨thread, (threads.workers thread).returned⟩
  begun : ∀ event ∈ threads.trace, threads.HasBegun event.id
  /-- A call does nothing before it begins. -/
  first : threads.trace.Pairwise fun earlier later =>
    later.begins = true → earlier.id ≠ later.id

theorem completions_letThrough (threads : Threads ι) (thread : ι) (call : Call) :
    (threads.letThrough thread call).completions = threads.completions := by
  simp [completions, letThrough, Event.completion?]

theorem completions_complete (threads : Threads ι) (thread : ι) (call : Call) (calls : List Call)
    (answer : Monitor.Answer) (monitor : Monitor) :
    (threads.complete thread call calls answer monitor).completions =
      threads.completions ++
        [⟨⟨thread, (threads.workers thread).returned⟩, call, answer⟩] := by
  simp [completions, complete, Event.completion?]

namespace Accounted

variable {start : Monitor} {programs : ι → List Call} {threads : Threads ι}

theorem create (start : Monitor) (programs : ι → List Call) :
    Accounted start programs (Threads.create start programs) where
  answers := rfl
  monitor := rfl
  calls := fun _ => rfl
  numbers := fun _ => rfl
  numbered := fun _ recorded => absurd recorded List.not_mem_nil
  admitted := fun _ through => absurd through Bool.false_ne_true
  begun := fun _ recorded => absurd recorded List.not_mem_nil
  first := List.Pairwise.nil

/-- A step that begins a call is the first of the call. -/
theorem fresh (accounted : Accounted start programs threads) {thread : ι}
    (waiting : (threads.workers thread).admitted = false) :
    ∀ event ∈ threads.trace, event.id ≠ ⟨thread, (threads.workers thread).returned⟩ := by
  intro event recorded same
  have number : event.id.number = (threads.workers thread).returned := congrArg CallId.number same
  have maker : event.id.thread = thread := congrArg CallId.thread same
  have known := accounted.numbered event recorded
  rw [maker, number, waiting] at known
  simp at known

theorem letThrough (accounted : Accounted start programs threads) {thread : ι} {call : Call}
    (waiting : (threads.workers thread).admitted = false) :
    Accounted start programs (threads.letThrough thread call) where
  answers := by
    rw [completions_letThrough]
    exact accounted.answers
  monitor := by
    rw [completions_letThrough]
    exact accounted.monitor
  calls := fun other => by
    rw [completions_letThrough]
    by_cases same : other = thread
    · subst same
      simpa [Threads.letThrough] using accounted.calls other
    · simpa [Threads.letThrough, same] using accounted.calls other
  numbers := fun other => by
    rw [completions_letThrough]
    by_cases same : other = thread
    · subst same
      simpa [Threads.letThrough] using accounted.numbers other
    · simpa [Threads.letThrough, same] using accounted.numbers other
  numbered := fun event recorded => by
    rcases List.mem_append.1 recorded with old | new
    · by_cases same : event.id.thread = thread
      · have known := accounted.numbered event old
        rw [same] at known ⊢
        simp only [Threads.letThrough, Function.update_self]
        exact known.imp_right fun now => ⟨now.1, trivial⟩
      · simpa [Threads.letThrough, same] using accounted.numbered event old
    · rw [List.mem_singleton.1 new]
      simp [Threads.letThrough]
  admitted := fun other through => by
    by_cases same : other = thread
    · subst same
      simp [Threads.letThrough, HasBegun]
    · simp only [Threads.letThrough, Function.update_of_ne same] at through ⊢
      exact (accounted.admitted other through).mono (List.subset_append_left _ _)
  begun := fun event recorded => by
    rcases List.mem_append.1 recorded with old | new
    · exact (accounted.begun event old).mono (List.subset_append_left _ _)
    · exact ⟨event, recorded, by rw [List.mem_singleton.1 new], rfl⟩
  first := by
    apply List.pairwise_append.2
    refine ⟨accounted.first, List.pairwise_singleton _ _, ?_⟩
    intro earlier recorded later new _
    rw [List.mem_singleton.1 new]
    exact accounted.fresh waiting earlier recorded

theorem complete (accounted : Accounted start programs threads) {thread : ι} {call : Call}
    {calls : List Call} (next : (threads.workers thread).calls = call :: calls) :
    Accounted start programs
      (threads.complete thread call calls (threads.monitor.perform call.alone).answer
        (threads.monitor.perform call.alone).monitor) where
  answers := by
    simp only [completions_complete, List.map_append, Monitor.answers_append, accounted.answers,
      accounted.monitor]
    rfl
  monitor := by
    simp only [completions_complete, List.map_append, Monitor.after_append, accounted.monitor]
    rfl
  calls := fun other => by
    rw [completions_complete]
    by_cases same : other = thread
    · subst same
      simpa [ofThread, Threads.complete, next] using accounted.calls other
    · simpa [ofThread, Threads.complete, same, Ne.symm same] using accounted.calls other
  numbers := fun other => by
    rw [completions_complete]
    by_cases same : other = thread
    · subst same
      simpa [ofThread, Threads.complete, List.range_succ] using accounted.numbers other
    · simpa [ofThread, Threads.complete, same, Ne.symm same] using accounted.numbers other
  numbered := fun event recorded => by
    rcases List.mem_append.1 recorded with old | new
    · by_cases same : event.id.thread = thread
      · have known := accounted.numbered event old
        rw [same] at known ⊢
        simp only [Threads.complete, Function.update_self]
        omega
      · simpa [Threads.complete, same] using accounted.numbered event old
    · rw [List.mem_singleton.1 new]
      simp [Threads.complete]
  admitted := fun other through => by
    by_cases same : other = thread
    · subst same
      simp [Threads.complete] at through
    · simp only [Threads.complete, Function.update_of_ne same] at through ⊢
      exact (accounted.admitted other through).mono (List.subset_append_left _ _)
  begun := fun event recorded => by
    rcases List.mem_append.1 recorded with old | new
    · exact (accounted.begun event old).mono (List.subset_append_left _ _)
    · have eventIs := List.mem_singleton.1 new
      cases through : (threads.workers thread).admitted with
      | false => exact ⟨event, recorded, by rw [eventIs, through]; rfl, rfl⟩
      | true =>
          rw [eventIs]
          exact (accounted.admitted thread through).mono (List.subset_append_left _ _)
  first := by
    apply List.pairwise_append.2
    refine ⟨accounted.first, List.pairwise_singleton _ _, ?_⟩
    intro earlier recorded later new begins
    rw [List.mem_singleton.1 new] at begins ⊢
    exact accounted.fresh (by simpa using begins) earlier recorded

theorem step (accounted : Accounted start programs threads) (thread : ι) :
    Accounted start programs (threads.step thread) := by
  rcases threads.step_cases thread with
    ⟨_, idle⟩ | ⟨call, calls, next, ⟨_, waiting, _, through⟩ | completed⟩
  · rw [idle]
    exact accounted
  · rw [through]
    exact accounted.letThrough waiting
  · rw [completed]
    exact accounted.complete next

theorem run (accounted : Accounted start programs threads) (schedule : List ι) :
    Accounted start programs (threads.run schedule) := by
  induction schedule generalizing threads with
  | nil => exact accounted
  | cons thread schedule inductionHypothesis => exact inductionHypothesis (accounted.step thread)

/-- A call that had returned before another one began has returned before it. -/
theorem realTime (accounted : Accounted start programs threads) {earlier later : Completion ι}
    (completed : later ∈ threads.completions) (precedes : threads.Precedes earlier later) :
    [earlier, later].Sublist threads.completions := by
  rcases precedes with ⟨last, first, inTrace, returned, begins, same⟩
  rcases List.mem_filterMap.1 completed with ⟨event, recorded, laterReturned⟩
  have eventId : event.id = first.id := by
    rcases Option.map_eq_some_iff.1 laterReturned with ⟨answer, _, rfl⟩
    exact same.symm
  rcases List.cons_sublist_iff.1 inTrace with ⟨before, after, split, lastBefore, firstAfter⟩
  have eventAfter : event ∈ after := by
    rw [split] at recorded
    rcases List.mem_append.1 recorded with eventBefore | eventAfter
    · have distinct := accounted.first
      rw [split] at distinct
      exact absurd eventId ((List.pairwise_append.1 distinct).2.2 event eventBefore first
        (List.singleton_sublist.1 firstAfter) begins)
    · exact eventAfter
  have together : [last, event].Sublist threads.trace := by
    rw [split]
    exact List.Sublist.append (List.singleton_sublist.2 lastBefore)
      (List.singleton_sublist.2 eventAfter)
  have mapped := together.filterMap Event.completion?
  rw [List.filterMap_cons_some returned, List.filterMap_cons_some laterReturned] at mapped
  exact mapped

/-- The calls could have been made one at a time in the order in which they have returned. -/
theorem linearizes (accounted : Accounted start programs threads) :
    Linearizes start programs threads threads.completions where
  completions := List.Perm.refl _
  answers := accounted.answers
  monitor := accounted.monitor
  calls := accounted.calls
  numbers := accounted.numbers
  begun := fun completion completed => by
    rcases List.mem_filterMap.1 completed with ⟨event, recorded, returned⟩
    rcases Option.map_eq_some_iff.1 returned with ⟨answer, _, rfl⟩
    exact accounted.begun event recorded
  realTime := fun _ _ _ completed precedes => accounted.realTime completed precedes

end Accounted

/-! ## Nothing is recorded after a stop -/

/-- A monitor that does not record stays so until it is told to. -/
theorem paused_undergo {monitor : Monitor} (paused : monitor.store.monitoring = false)
    {change : Monitor.Change} (silent : change ≠ .setMonitoring true) :
    (monitor.undergo change).store.monitoring = false := by
  cases change with
  | start pid parent name => simp [Monitor.undergo, Store.commitStart, paused]
  | exit pid code usage => simp [Monitor.undergo, Store.commitExit, paused]
  | setMonitoring monitoring =>
      cases monitoring with
      | false => rfl
      | true => exact absurd rfl silent
  | _ => exact paused

theorem paused_after {monitor : Monitor} (paused : monitor.store.monitoring = false)
    (calls : List Monitor.Call) (silent : ∀ call ∈ calls, call.change ≠ .setMonitoring true) :
    (monitor.after calls).store.monitoring = false := by
  induction calls generalizing monitor with
  | nil => exact paused
  | cons call calls inductionHypothesis =>
      rw [Monitor.after_cons]
      exact inductionHypothesis (paused_undergo paused (silent call List.mem_cons_self))
        fun other later => silent other (List.mem_cons_of_mem _ later)

/-- Only the call to set the flag sets it. -/
theorem Call.eq_of_change_alone {call : Call} {monitoring : Bool}
    (sets : call.alone.change = .setMonitoring monitoring) :
    call = .setMonitoring monitoring := by
  cases call with
  | setMonitoring flag => exact congrArg Call.setMonitoring (Monitor.Change.setMonitoring.inj sets)
  | _ => cases sets

/-- After a stop has returned the monitor does not record until it is told to. -/
theorem Accounted.paused {start : Monitor} {programs : ι → List Call} {threads : Threads ι}
    (accounted : Accounted start programs threads) {before after : List (Completion ι)}
    {stop : Completion ι} (order : threads.completions = before ++ stop :: after)
    (stops : stop.call = .setMonitoring false)
    (silent : ∀ completion ∈ after, completion.call ≠ .setMonitoring true) :
    threads.monitor.store.monitoring = false := by
  rw [← accounted.monitor, order, List.map_append, List.map_cons, Monitor.after_append,
    Monitor.after_cons, stops]
  apply paused_after rfl
  intro call made
  rcases List.mem_map.1 made with ⟨completion, later, rfl⟩
  intro resumes
  exact silent completion later (Call.eq_of_change_alone resumes)

/-- A step of a report leaves a monitor alone that does not record. -/
theorem step_monitor_of_paused {threads : Threads ι} (paused : threads.monitor.store.monitoring = false)
    {thread : ι} {call : Call} {calls : List Call}
    (next : (threads.workers thread).calls = call :: calls) (report : call.isReport = true) :
    (threads.step thread).monitor = threads.monitor := by
  rcases threads.step_cases thread with
    ⟨_, idle⟩ | ⟨made, left, madeNext, ⟨_, _, recording, _⟩ | completed⟩
  · rw [idle]
  · rw [recording] at paused
    cases paused
  · have same : made = call := (List.cons.inj (madeNext.symm.trans next)).1
    subst same
    rw [completed]
    exact (congrArg Prod.snd (Call.refusal_eq report paused)).symm

/-! ## The schedules of a monitor -/

/-- Whatever the schedule, the calls that have returned could have been made one at a time, in an order
that respects which of them had returned before another began; and once a stop has returned, no start
and no exit changes anything before the monitor is told to record again. -/
theorem linearizable (start : Monitor) (programs : ι → List Call) (schedule : List ι) :
    (∃ order, Linearizes start programs ((create start programs).run schedule) order) ∧
      ∀ before stop after,
        ((create start programs).run schedule).completions = before ++ stop :: after →
        stop.call = .setMonitoring false →
        (∀ completion ∈ after, completion.call ≠ .setMonitoring true) →
        ∀ thread call calls,
          (((create start programs).run schedule).workers thread).calls = call :: calls →
          call.isReport = true →
          (((create start programs).run schedule).step thread).monitor =
            ((create start programs).run schedule).monitor := by
  have accounted := (Accounted.create start programs).run schedule
  refine ⟨⟨_, accounted.linearizes⟩, ?_⟩
  intro before stop after order stops silent thread call calls next report
  exact step_monitor_of_paused (accounted.paused order stops silent) next report

/-- A start that was let through before a stop returned is refused. -/
theorem linearizable_of_stop :
    let programs : Bool → List Call := fun thread =>
      if thread then [.setMonitoring false] else [.start 7 1 "sh"]
    let threads := (create (Monitor.create {} 0).1 programs).run [false, true]
    (threads.workers false).admitted = true ∧
      (∃ order, Linearizes (Monitor.create {} 0).1 programs threads order) ∧
      (threads.step false).monitor = threads.monitor := by
  intro programs threads
  have settled := linearizable (Monitor.create {} 0).1 programs [false, true]
  refine ⟨rfl, settled.1, ?_⟩
  exact settled.2 [] ⟨⟨true, 0⟩, .setMonitoring false, .done⟩ [] rfl rfl (by simp) false
    (.start 7 1 "sh") [] rfl rfl

end Threads

end ProcessWatch
