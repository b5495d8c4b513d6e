/-
Module: ProcessWatch.Proofs.Roster.Memory
Purpose: What calls come to whatever the memory has to say, and that containers which keep the room they
  were created with leave no start without memory.
Trusted boundary: none; that containers keep their room is a condition in the statements
Main exports: Monitor.Attempt, Monitor.attempt, Monitor.attemptAll, Monitor.shortage?,
  Monitor.attempt_of_fits, Monitor.exists_attempt_of_shortage, Roster.Models.shortage?_eq_none,
  Roster.Pictures.attemptAll_eq_run

A start that finds no memory has made room before, so a full store is left with one record less.  It is
the only thing that can go otherwise than with enough memory.  That it does not happen to a store whose
containers keep their room is a matter of counting: once room is made each of them holds fewer elements
than the store may hold records.
-/
import ProcessWatch.Proofs.Index.Consistency
import ProcessWatch.Proofs.Roster.Simulation

namespace ProcessWatch

/-! ## The room in an index -/

namespace Index

variable {index : Index}

/-- An index asks for no memory as long as none of its containers is full. -/
theorem shortage?_of_keepsRoom {memory : Memory} (keeps : memory.KeepsRoom) {room : Nat}
    (recency : index.recency.length < room) (arena : index.arena.size < room)
    (newest : index.newest.size < room) : index.shortage? memory room = none := by
  rw [shortage?, keeps _ _ _ recency, keeps _ _ _ arena, keeps _ _ _ newest]
  rfl

namespace Coherent

/-- What is found by a process number is a running entry about it. -/
theorem runs_of_newest (coherent : index.Coherent) {pid : Pid} {head : RecordId}
    (found : index.newest[pid]? = some head) : Runs index.arena pid head := by
  obtain ⟨ids, chain⟩ := coherent.chains pid
  have first : ids.head? = some head := chain.leads.head_eq.symm.trans found
  exact (chain.mem_iff head).mp (List.mem_of_mem_head? first)

/-- No more process numbers lead to an entry than there are entries: each leads to one of its own. -/
theorem size_newest_le (coherent : index.Coherent) : index.newest.size ≤ index.arena.size := by
  have heads : ∀ pair ∈ index.newest.toList, Runs index.arena pair.1 pair.2 := fun pair member =>
    coherent.runs_of_newest (Std.TreeMap.mem_toList_iff_getElem?_eq_some.mp member)
  have distinct : (index.newest.toList.map Prod.snd).Nodup := by
    refine List.pairwise_map.mpr (List.Pairwise.imp_of_mem ?_ Std.TreeMap.distinct_keys_toList)
    intro first second one two differs same
    have samePid := (heads first one).pid_eq (same ▸ heads second two)
    exact differs (by simp [samePid])
  have held : ∀ id ∈ index.newest.toList.map Prod.snd, id ∈ index.arena := by
    intro id member
    obtain ⟨pair, inside, rfl⟩ := List.mem_map.mp member
    obtain ⟨entry, found, -⟩ := heads pair inside
    exact Std.TreeMap.mem_iff_isSome_getElem?.mpr (by simp [found])
  have bound := length_le_size distinct held
  rwa [List.length_map, Std.TreeMap.length_toList] at bound

end Coherent

end Index

/-! ## Starts without memory -/

namespace Store

variable {store : Store} {memory : Memory}

/-- Why a start finds no memory, if it finds none. -/
def shortage? (store : Store) (memory : Memory) : Option String :=
  if store.monitoring then store.makeRoom.2.index.shortage? memory store.capacity else none

@[simp] theorem capacity_makeRoom (store : Store) :
    store.makeRoom.2.capacity = store.capacity := by
  rw [makeRoom]
  split <;> rfl

/-- A start that finds memory does what it would do with enough of it. -/
theorem commitStart_of_fits (fits : store.shortage? memory = none) (now : Timestamp)
    (pid parent : Pid) (name : CommandName) :
    store.commitStart now pid parent name memory = store.commitStart now pid parent name := by
  rw [commitStart, commitStart]
  by_cases recording : store.monitoring = true
  · rw [shortage?, if_pos recording] at fits
    simp only [if_pos recording, capacity_makeRoom, fits, Index.shortage?_ample]
  · rw [if_neg recording, if_neg recording]

/-- A start that finds no memory has made room, and that is all. -/
theorem commitStart_of_shortage {shortage : String} (short : store.shortage? memory = some shortage)
    (now : Timestamp) (pid parent : Pid) (name : CommandName) :
    store.commitStart now pid parent name memory = (.unstored pid shortage, store.makeRoom.2) := by
  rw [shortage?, Option.ite_none_right_eq_some] at short
  obtain ⟨recording, short⟩ := short
  simp only [commitStart, if_pos recording, capacity_makeRoom, short]

theorem start_of_fits (fits : store.shortage? memory = none) (now : Timestamp) (pid parent : Pid)
    (name : String) :
    store.start now pid parent name memory = store.start now pid parent name := by
  rw [start, start, commitStart_of_fits fits]

/-- A start that finds no memory tells so, but not what made room for it. -/
theorem start_of_shortage {shortage : String} (short : store.shortage? memory = some shortage)
    (now : Timestamp) (pid parent : Pid) (name : String) :
    store.start now pid parent name memory =
      ⟨none, store.makeRoom.2,
        [.recordUnstored pid (MonitorError.allocationFailed shortage).diagnostic.message]⟩ := by
  have recording : store.monitoring = true := by
    rw [shortage?, Option.ite_none_right_eq_some] at short
    exact short.1
  rw [start, if_pos recording, commitStart_of_shortage short]
  rfl

end Store

/-! ## A call and its memory -/

namespace Monitor

/-- A call together with the memory that it meets. -/
structure Attempt where
  call : Call
  memory : Memory := .ample

/-- Answer a call with the memory that it meets. -/
def attempt (monitor : Monitor) (attempt : Attempt) : Result :=
  monitor.perform attempt.call attempt.memory

/-- Answer some calls one after the other, each with the memory that it meets. -/
def attemptAll (monitor : Monitor) : List Attempt → List Answer × Monitor × List LogEvent
  | [] => ([], monitor, [])
  | attempt :: attempts =>
      let result := monitor.attempt attempt
      let (answers, final, log) := result.monitor.attemptAll attempts
      (result.answer :: answers, final, result.log ++ log)

/-- Why a call finds no memory for the record of the start that it reports, if it finds none. -/
def shortage? (monitor : Monitor) (attempt : Attempt) : Option String :=
  if attempt.call.isStart then monitor.store.shortage? attempt.memory else none

/-- A call that finds memory is answered as with enough of it. -/
theorem attempt_of_fits {monitor : Monitor} {attempt : Attempt}
    (fits : monitor.shortage? attempt = none) :
    monitor.attempt attempt = monitor.perform attempt.call := by
  obtain ⟨call, memory⟩ := attempt
  cases call with
  | start pid parent name =>
      have started := Store.start_of_fits fits monitor.clock.now pid parent name
      simp only [Monitor.attempt, perform, started]
  | deliver event =>
      cases event with
      | start pid parent name =>
          have started := Store.start_of_fits fits monitor.clock.now pid parent name.text
          simp only [Monitor.attempt, perform, Store.deliver, started]
      | exit pid code usage => rfl
  | _ => rfl

/-- A call that finds no memory has made room and tells of the shortage, and that is all. -/
theorem exists_attempt_of_shortage {monitor : Monitor} {attempt : Attempt} {shortage : String}
    (short : monitor.shortage? attempt = some shortage) :
    ∃ answer pid, monitor.attempt attempt =
      ⟨answer, { monitor with store := monitor.store.makeRoom.2 },
        [.recordUnstored pid (MonitorError.allocationFailed shortage).diagnostic.message]⟩ := by
  obtain ⟨call, memory⟩ := attempt
  cases call with
  | start pid parent name =>
      refine ⟨.started none, pid, ?_⟩
      have started := Store.start_of_shortage short monitor.clock.now pid parent name
      simp only [Monitor.attempt, perform, started]
      rfl
  | deliver event =>
      cases event with
      | start pid parent name =>
          refine ⟨.done, pid, ?_⟩
          have started := Store.start_of_shortage short monitor.clock.now pid parent name.text
          simp only [Monitor.attempt, perform, Store.deliver, started]
          rfl
      | exit pid code usage => cases short
  | _ => cases short

end Monitor

/-! ## Containers that keep their room -/

namespace Roster

/-- Drop the first record if there are as many as there may be. -/
def makeRoom (roster : Roster) : Roster :=
  { roster with
    records :=
      if roster.capacity ≤ roster.records.length then roster.records.tail else roster.records }

/-- Room for one more record is room: fewer are left than there may be. -/
theorem length_records_makeRoom_lt {roster : Roster} (positive : 0 < roster.capacity)
    (room : roster.records.length ≤ roster.capacity) :
    roster.makeRoom.records.length < roster.capacity := by
  rw [makeRoom]
  split
  · rw [List.length_tail]
    omega
  · rename_i fits
    exact Nat.lt_of_not_le fits

namespace Models

variable {roster : Roster} {store : Store}

/-- Making room keeps the picture true. -/
theorem makesRoom (models : roster.Models store) : roster.makeRoom.Models store.makeRoom.2 := by
  obtain ⟨index, madeRoom, coherent, marked, nextId, records⟩ := models.makeRoom
  rw [madeRoom]
  exact
    { models with
      coherent := coherent
      marked := marked
      nextId := nextId
      records := records
      room := Nat.le_of_lt (length_records_makeRoom_lt models.capacity_pos models.room) }

/-- A start finds memory if containers keep the room that they were created with. -/
theorem shortage?_eq_none (models : roster.Models store) {memory : Memory}
    (keeps : memory.KeepsRoom) : store.shortage? memory = none := by
  rw [Store.shortage?]
  split
  · have after := models.makesRoom
    have recency : store.makeRoom.2.index.recency.length < store.capacity := by
      have size : store.makeRoom.2.index.recency.length = _ := after.size_eq
      rw [size, models.capacity]
      exact length_records_makeRoom_lt models.capacity_pos models.room
    have arena : store.makeRoom.2.index.arena.size < store.capacity :=
      after.coherent.viewsAgree.size_arena ▸ recency
    exact Index.shortage?_of_keepsRoom keeps recency arena
      (Nat.lt_of_le_of_lt after.coherent.size_newest_le arena)
  · rfl

end Models

namespace Pictures

variable {roster : Roster} {monitor : Monitor}

theorem shortage?_eq_none (pictures : roster.Pictures monitor) {attempt : Monitor.Attempt}
    (keeps : attempt.memory.KeepsRoom) : monitor.shortage? attempt = none := by
  rw [Monitor.shortage?]
  split
  · exact pictures.models.shortage?_eq_none keeps
  · rfl

/-- As long as containers keep their room, calls come to what they come to with enough memory.  So what
is said of runs with enough memory is said of all of them. -/
theorem attemptAll_eq_run (pictures : roster.Pictures monitor) {attempts : List Monitor.Attempt}
    (keep : ∀ attempt ∈ attempts, attempt.memory.KeepsRoom) :
    monitor.attemptAll attempts = monitor.run (attempts.map Monitor.Attempt.call) := by
  induction attempts generalizing roster monitor with
  | nil => rfl
  | cons attempt attempts inductionHypothesis =>
      obtain ⟨keeps, others⟩ := List.forall_mem_cons.mp keep
      have fits := Monitor.attempt_of_fits (pictures.shortage?_eq_none keeps)
      have next : (roster.undergo attempt.call.change).Pictures
          (monitor.perform attempt.call).monitor := by
        rw [Monitor.perform_monitor]
        exact pictures.undergo attempt.call.change
      rw [Monitor.attemptAll, fits, List.map_cons, Monitor.run]
      rw [inductionHypothesis next others]

end Pictures

end Roster

end ProcessWatch
