/-
Module: ProcessWatch.Proofs.Threads.Independence
Purpose: Threads that report about different processes do not disturb each other: in whatever order
  their reports come, the counters and the records are the same in the end, except for the numbers
  of the new records.
Trusted boundary: calls meet enough memory, for which Proofs.Roster.Memory gives a condition
Main exports: Statistics.SameCounts, Record.unnumbered, Monitor.Separate, Monitor.newAbout,
  Roster.Ready.records_perm, Roster.Ready.sameCounts, Monitor.separate_programs_commute
-/
import ProcessWatch.Proofs.Interleaving
import ProcessWatch.Proofs.Roster.Lifetime
import ProcessWatch.Proofs.Roster.Reports

namespace ProcessWatch

open Monitor (Call)

/-! ## Counters of the same exits in another order -/

namespace Statistics

/-- The counters agree on all that does not depend on the order of starts and exits. -/
structure SameCounts (left right : Statistics) : Prop where
  created : left.created = right.created
  exited : left.exited = right.exited
  current : left.current = right.current
  totalCpuTime : left.totalCpuTime = right.totalCpuTime
  totalLifetime : left.totalLifetime = right.totalLifetime
  minLifetime : left.minLifetime = right.minLifetime
  maxLifetime : left.maxLifetime = right.maxLifetime

theorem min?_eq_of_perm {left right : List Nat} (perm : left.Perm right) :
    left.min? = right.min? := by
  apply Option.ext
  intro least
  rw [List.min?_eq_some_iff, List.min?_eq_some_iff, perm.mem_iff]
  simp only [perm.mem_iff]

theorem max?_eq_of_perm {left right : List Nat} (perm : left.Perm right) :
    left.max? = right.max? := by
  apply Option.ext
  intro greatest
  rw [List.max?_eq_some_iff, List.max?_eq_some_iff, perm.mem_iff]
  simp only [perm.mem_iff]

/-- The counters of as many starts and of the same exits in another order. -/
theorem Recounts.sameCounts (first : RecordId) {left right : Statistics} {one two : History}
    (ofLeft : left.Recounts one) (ofRight : right.Recounts two)
    (starts : one.startedIds.length = two.startedIds.length)
    (exits : (one.countedExits.map (Record.unnumberFrom first)).Perm
      (two.countedExits.map (Record.unnumberFrom first))) : left.SameCounts right := by
  have cpuTimes : (Records.cpuTimes one.countedExits).Perm (Records.cpuTimes two.countedExits) := by
    have used := exits.map fun record => record.usage.cpuTime
    rw [List.map_map, List.map_map] at used
    exact used
  have lifetimes : (Records.lifetimes one.countedExits).Perm
      (Records.lifetimes two.countedExits) := by
    have lived := exits.map fun record => record.lifetimeNanos?.getD 0
    rw [List.map_map, List.map_map] at lived
    exact lived
  have length : one.countedExits.length = two.countedExits.length := by
    have length := exits.length_eq
    rwa [List.length_map, List.length_map] at length
  have exited : left.exited = right.exited := by
    rw [ofLeft.exits.exited, ofRight.exits.exited, length]
  have created : left.created = right.created := by
    rw [ofLeft.created, ofRight.created, starts]
  constructor
  case created => exact created
  case exited => exact exited
  case current =>
    have leftCurrent := ofLeft.current
    have rightCurrent := ofRight.current
    omega
  case totalCpuTime =>
    rw [ofLeft.exits.totalCpuTime, ofRight.exits.totalCpuTime, cpuTimes.sum_eq]
  case totalLifetime =>
    rw [ofLeft.exits.totalLifetime, ofRight.exits.totalLifetime, lifetimes.sum_eq]
  case minLifetime =>
    rw [ofLeft.exits.minLifetime, ofRight.exits.minLifetime, min?_eq_of_perm lifetimes]
  case maxLifetime =>
    rw [ofLeft.exits.maxLifetime, ofRight.exits.maxLifetime, max?_eq_of_perm lifetimes]

end Statistics

/-! ## Records that look the same -/

/-- The record as it looks apart from its number. -/
def Record.unnumbered (record : Record) : Record := { record with id := 0 }

namespace Records

variable {left right : List Record} {first : RecordId}

/-- If the records about each process number look the same, then so do all together. -/
theorem perm_of_seen
    (same : ∀ pid, seen (· == pid) first left = seen (· == pid) first right) :
    (left.map (Record.unnumberFrom first)).Perm (right.map (Record.unnumberFrom first)) := by
  have counted : ∀ (records : List Record) (record : Record),
      (records.map (Record.unnumberFrom first)).count record =
        (seen (· == record.pid) first records).count record := by
    intro records record
    have filtered : seen (· == record.pid) first records =
        (records.map (Record.unnumberFrom first)).filter fun held => held.pid == record.pid := by
      rw [seen, List.filter_map]
      rfl
    rw [filtered,
      List.count_filter (p := fun held : Record => held.pid == record.pid) (beq_self_eq_true _)]
  apply List.perm_iff_count.mpr
  intro record
  rw [counted left, counted right, same]

/-- The old records keep their numbers. -/
theorem filter_old_map_unnumberFrom (first : RecordId) (records : List Record) :
    (records.map (Record.unnumberFrom first)).filter (fun record => record.id < first) =
      records.filter fun record => record.id < first := by
  have old : (fun record : Record => decide (record.id < first)) ∘ Record.unnumberFrom first =
      fun record => decide (record.id < first) := by
    funext record
    simp [Record.unnumberFrom]
  have keeps : ∀ record ∈ records.filter fun record => record.id < first,
      record.unnumberFrom first = id record := by
    intro record member
    have below : record.id < first := of_decide_eq_true (List.mem_filter.mp member).2
    rw [Record.unnumberFrom, Nat.min_eq_left (Nat.le_of_lt below)]
    rfl
  rw [List.filter_map, old, List.map_congr_left keeps, List.map_id]

/-- If all records look the same, the old ones are the same. -/
theorem filter_old_eq (leftAscending : (left.map Record.id).Pairwise (· < ·))
    (rightAscending : (right.map Record.id).Pairwise (· < ·))
    (perm : (left.map (Record.unnumberFrom first)).Perm (right.map (Record.unnumberFrom first))) :
    (left.filter fun record => record.id < first) =
      right.filter fun record => record.id < first := by
  have perm := perm.filter fun record => record.id < first
  rw [filter_old_map_unnumberFrom, filter_old_map_unnumberFrom] at perm
  have distinct : ∀ one two : Record, one ∈ left.filter (fun record => record.id < first) →
      two ∈ right.filter (fun record => record.id < first) → one.id < two.id → two.id < one.id →
        one = two :=
    fun _ _ _ _ less greater => absurd less (Nat.lt_asymm greater)
  exact List.Perm.eq_of_pairwise distinct ((List.pairwise_map.mp leftAscending).filter _)
    ((List.pairwise_map.mp rightAscending).filter _) perm

/-- What the new records about some process numbers look like shows in what is seen of all. -/
theorem map_unnumbered_filter_new (mine : Pid → Bool) (first : RecordId) (records : List Record) :
    (records.filter fun record => mine record.pid && first ≤ record.id).map Record.unnumbered =
      ((seen mine first records).filter fun record => first ≤ record.id).map Record.unnumbered := by
  have new : (fun record : Record => decide (first ≤ record.id)) ∘ Record.unnumberFrom first =
      fun record => decide (first ≤ record.id) := by
    funext record
    simp [Record.unnumberFrom]
  rw [seen, List.filter_map, new, List.filter_filter, List.map_map]
  simp only [Bool.and_comm]
  rfl

end Records

/-! ## Reports in another order -/

namespace Roster

variable {roster : Roster}

/-- The exits that count are those of records with a number that counts. -/
theorem Accounts.countedExits_eq {since : History} (accounts : roster.Accounts since) :
    since.countedExits = since.exits.filter fun record => roster.firstCounted ≤ record.id := by
  apply List.filter_congr
  intro record member
  rw [decide_eq_decide, accounts.started_iff]
  exact and_iff_left (accounts.ended_lt record member)

namespace Ready

variable {one two : List Call}

/-- The records after reports that come in the same order for each process number. -/
theorem records_perm (readyOne : roster.Ready one) (readyTwo : roster.Ready two)
    (same : ∀ pid, one.filter (·.isAbout (· == pid)) = two.filter (·.isAbout (· == pid))) :
    ((roster.after one).records.map (Record.unnumberFrom roster.nextId)).Perm
      ((roster.after two).records.map (Record.unnumberFrom roster.nextId)) := by
  apply Records.perm_of_seen
  intro pid
  rw [readyOne.seen_after (Nat.le_refl _), readyTwo.seen_after (Nat.le_refl _), same]

/-- The counters after as many starts, if the records look the same in the end: the exits that came
since are just those of the records that stopped since. -/
theorem sameCounts (readyOne : roster.Ready one) (readyTwo : roster.Ready two) {monitor : Monitor}
    (pictures : roster.Pictures monitor) {since : History} (accounts : roster.Accounts since)
    (starts : one.countP Call.isStart = two.countP Call.isStart)
    (perm : ((roster.after one).records.map (Record.unnumberFrom roster.nextId)).Perm
      ((roster.after two).records.map (Record.unnumberFrom roster.nextId))) :
    (roster.after one).stats.SameCounts (roster.after two).stats := by
  obtain ⟨happenedOne, accountsOne, startedOne, stoppedOne⟩ :=
    readyOne.exists_happened pictures accounts
  obtain ⟨happenedTwo, accountsTwo, startedTwo, stoppedTwo⟩ :=
    readyTwo.exists_happened pictures accounts
  have stopped : (((roster.after one).records.filter Record.hasStopped).map
      (Record.unnumberFrom roster.nextId)).Perm
      (((roster.after two).records.filter Record.hasStopped).map
        (Record.unnumberFrom roster.nextId)) := by
    have stopped := perm.filter Record.hasStopped
    rw [List.filter_map, List.filter_map] at stopped
    exact stopped
  have exits : (happenedOne.exits.map (Record.unnumberFrom roster.nextId)).Perm
      (happenedTwo.exits.map (Record.unnumberFrom roster.nextId)) := by
    have both := ((stoppedOne.map (Record.unnumberFrom roster.nextId)).trans stopped).trans
      (stoppedTwo.map (Record.unnumberFrom roster.nextId)).symm
    rw [List.map_append, List.map_append] at both
    exact (List.perm_append_right_iff _).mp both
  have counted : (fun record : Record => decide (roster.firstCounted ≤ record.id)) ∘
      Record.unnumberFrom roster.nextId = fun record => decide (roster.firstCounted ≤ record.id) := by
    have early : roster.firstCounted ≤ roster.nextId := pictures.models.firstCounted_le
    funext record
    simp [Record.unnumberFrom, early]
  apply accountsOne.recounts.sameCounts roster.nextId accountsTwo.recounts
  · rw [History.startedIds_append, History.startedIds_append, List.length_append,
      List.length_append, startedOne, startedTwo, starts]
  · rw [accountsOne.countedExits_eq, accountsTwo.countedExits_eq, readyOne.firstCounted_after,
      readyTwo.firstCounted_after, ← counted, ← List.filter_map, ← List.filter_map]
    apply List.Perm.filter
    rw [History.exits_append, History.exits_append, List.map_append, List.map_append]
    exact exits.append_left _

end Ready

end Roster

/-! ## Separate programs -/

namespace Monitor

/-- The programs of several threads that report starts and exits, no two of them about one process
number. -/
structure Separate (programs : List (List Call)) : Prop where
  reports : ∀ call ∈ programs.flatten, call.reported?.isSome = true
  apart : programs.Pairwise fun program other =>
    ∀ call ∈ program, ∀ further ∈ other, call.reported? ≠ further.reported?

/-- A program makes a report about a process number. -/
def isReportedBy (program : List Call) (pid : Pid) : Bool :=
  program.any fun call => call.reported? = some pid

/-- The records with a number from `first` on that are about the process numbers of a program. -/
def newAbout (monitor : Monitor) (program : List Call) (first : RecordId) : List Record :=
  monitor.held.filter fun record => isReportedBy program record.pid && first ≤ record.id

namespace Separate

variable {programs : List (List Call)}

/-- Reports about one process number belong to one program. -/
theorem eq_of_reported? (separate : Separate programs) {thread other : Nat}
    {items more : List Call} (there : programs[thread]? = some items)
    (listed : programs[other]? = some more) {call further : Call} (member : call ∈ items)
    (inside : further ∈ more) (same : call.reported? = further.reported?) : thread = other := by
  obtain ⟨threadInside, rfl⟩ := List.getElem?_eq_some_iff.mp there
  obtain ⟨otherInside, rfl⟩ := List.getElem?_eq_some_iff.mp listed
  have apart := List.pairwise_iff_getElem.mp separate.apart
  rcases Nat.lt_trichotomy thread other with before | here | behind
  · exact absurd same (apart thread other threadInside otherInside before call member further inside)
  · exact here
  · exact absurd same.symm
      (apart other thread otherInside threadInside behind further inside call member)

/-- Reports about the process numbers of a program are its own. -/
theorem eq_of_isReportedBy (separate : Separate programs) {owner thread : Nat}
    {program items : List Call} (own : programs[owner]? = some program)
    (there : programs[thread]? = some items) {call : Call} (member : call ∈ items)
    (about : call.isAbout (isReportedBy program) = true) : thread = owner := by
  obtain ⟨pid, reported, known⟩ := (Option.any_eq_true ..).mp about
  obtain ⟨further, inside, same⟩ := List.any_eq_true.mp known
  exact separate.eq_of_reported? there own member inside
    (reported.trans (of_decide_eq_true same).symm)

variable {one two : List Call}

/-- However the programs interleave, the reports about a process number come in one order. -/
theorem filter_pid_congr (separate : Separate programs) (first : Interleaves programs one)
    (second : Interleaves programs two) (pid : Pid) :
    one.filter (·.isAbout (· == pid)) = two.filter (·.isAbout (· == pid)) := by
  have reported : ∀ {call : Call}, call.isAbout (· == pid) = true → call.reported? = some pid := by
    intro call about
    obtain ⟨other, reported, same⟩ := (Option.any_eq_true ..).mp about
    rw [reported, eq_of_beq same]
  apply first.filter_congr second
  intro thread other items more there listed call member further inside isMine alsoMine
  exact separate.eq_of_reported? there listed member inside
    ((reported isMine).trans (reported alsoMine).symm)

/-- However the programs interleave, the reports of one program come in one order. -/
theorem filter_program_congr (separate : Separate programs) (first : Interleaves programs one)
    (second : Interleaves programs two) {program : List Call} (member : program ∈ programs) :
    one.filter (·.isAbout (isReportedBy program)) =
      two.filter (·.isAbout (isReportedBy program)) := by
  obtain ⟨owner, own⟩ := List.mem_iff_getElem?.mp member
  apply first.filter_congr second
  intro thread other items more there listed call inItems further inMore isMine alsoMine
  exact (separate.eq_of_isReportedBy own there inItems isMine).trans
    (separate.eq_of_isReportedBy own listed inMore alsoMine).symm

end Separate

end Monitor

/-- A roster that records and has room is ready for the programs in any interleaving. -/
theorem Roster.ready_of_interleaves {roster : Roster} {programs : List (List Call)}
    {merged : List Call} (recording : roster.monitoring = true)
    (separate : Monitor.Separate programs)
    (room : roster.records.length + programs.flatten.countP Call.isStart ≤ roster.capacity)
    (merges : Interleaves programs merged) : roster.Ready merged where
  recording := recording
  reports := fun call member => separate.reports call (merges.perm.mem_iff.mp member)
  room := by rwa [merges.perm.countP_eq]

/-! ## A monitor from its start -/

namespace Monitor

/-- Several threads report starts and exits of different processes to a monitor that records and has
room for them, while the clock stands still.  In any two orders in which their calls can interleave,
the counters come out the same, all but the peak and the mean lifetime, and so do the records from
before.  No record is dropped and the new ones are numbered on.  Each thread's new records are the
same in both, in the same order, apart from their numbers. -/
theorem separate_programs_commute (options : Store.Options) (time : Timestamp) (past : List Call)
    (programs : List (List Call)) (one two : List Call)
    (recording : ((create options time).1.after past).store.monitoring = true)
    (separate : Separate programs)
    (room : ((create options time).1.after past).store.size +
      programs.flatten.countP Call.isStart ≤ ((create options time).1.after past).store.capacity)
    (first : Interleaves programs one) (second : Interleaves programs two) :
    let monitor := (create options time).1.after past
    let next := monitor.store.index.nextId
    (monitor.after one).store.stats.SameCounts (monitor.after two).store.stats ∧
      ((monitor.after one).held.filter fun record => record.id < next) =
        (monitor.after two).held.filter (fun record => record.id < next) ∧
      (∀ merged, Interleaves programs merged → (monitor.after merged).held.map Record.id =
        monitor.held.map Record.id ++ List.range' next (programs.flatten.countP Call.isStart)) ∧
      ∀ program ∈ programs,
        ((monitor.after one).newAbout program next).map Record.unnumbered =
          ((monitor.after two).newAbout program next).map Record.unnumbered := by
  intro monitor next
  have start := Roster.Pictures.create options time
  have pictures := start.after past
  have empty : (Roster.create options time).Accounts (History.sinceReset []) :=
    Roster.Accounts.of_reset rfl rfl
  have accounts := empty.after start past
  generalize (Roster.create options time).after past = roster at pictures accounts
  have sameNext : next = roster.nextId := pictures.models.nextId
  have recording : roster.monitoring = true := pictures.models.monitoring.symm.trans recording
  have room : roster.records.length + programs.flatten.countP Call.isStart ≤ roster.capacity := by
    rwa [← pictures.models.size_eq, ← pictures.models.capacity]
  have ready : ∀ {merged}, Interleaves programs merged → roster.Ready merged :=
    fun merges => Roster.ready_of_interleaves recording separate room merges
  have picturesOne := pictures.after one
  have picturesTwo := pictures.after two
  have perm := (ready first).records_perm (ready second) (separate.filter_pid_congr first second)
  rw [picturesOne.models.stats, picturesTwo.models.stats, picturesOne.held, picturesTwo.held,
    sameNext]
  refine ⟨?_, ?_, ?_, ?_⟩
  · have starts : one.countP Call.isStart = two.countP Call.isStart :=
      (first.perm.trans second.perm.symm).countP_eq _
    exact (ready first).sameCounts (ready second) pictures accounts starts perm
  · exact Records.filter_old_eq picturesOne.models.numbered.ascending
      picturesTwo.models.numbered.ascending perm
  · intro merged merges
    rw [(pictures.after merged).held, pictures.held, (ready merges).map_id_after,
      merges.perm.countP_eq]
  · intro program member
    rw [newAbout, newAbout, picturesOne.held, picturesTwo.held,
      Records.map_unnumbered_filter_new, Records.map_unnumbered_filter_new,
      (ready first).seen_after (Nat.le_refl _), (ready second).seen_after (Nat.le_refl _),
      separate.filter_program_congr first second member]

/-- Two threads one after the other, or each with a call in turn: process 7 has record 2 or 3. -/
theorem separate_programs_commute_of_two :
    let monitor := (create {} 5).1.after [.start 6 1 "sh"]
    let one : List Call := [.start 7 1 "sh", .exit 7 0 {}, .start 8 1 "sh", .exit 6 0 {}]
    let two : List Call := [.start 8 1 "sh", .start 7 1 "sh", .exit 6 0 {}, .exit 7 0 {}]
    (monitor.after one).held.map Record.pid = [6, 7, 8] ∧
      (monitor.after two).held.map Record.pid = [6, 8, 7] ∧
      (monitor.after one).store.stats.SameCounts (monitor.after two).store.stats := by
  intro monitor one two
  let programs : List (List Call) :=
    [[.start 7 1 "sh", .exit 7 0 {}], [.start 8 1 "sh", .exit 6 0 {}]]
  have inOrder : Interleaves programs one :=
    .step (show programs[0]? = _ from rfl) (.step (show (_ : List (List Call))[0]? = _ from rfl)
      (.step (show (_ : List (List Call))[1]? = _ from rfl)
        (.step (show (_ : List (List Call))[1]? = _ from rfl) (.done (by simp [programs])))))
  have inTurn : Interleaves programs two :=
    .step (show programs[1]? = _ from rfl) (.step (show (_ : List (List Call))[0]? = _ from rfl)
      (.step (show (_ : List (List Call))[1]? = _ from rfl)
        (.step (show (_ : List (List Call))[0]? = _ from rfl) (.done (by simp [programs])))))
  have commutes := separate_programs_commute {} 5 [.start 6 1 "sh"] programs one two rfl
    ⟨by decide, by decide⟩ (by decide) inOrder inTurn
  exact ⟨by decide +kernel, by decide +kernel, commutes.1⟩

end Monitor

end ProcessWatch
