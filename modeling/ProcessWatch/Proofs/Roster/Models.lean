/-
Module: ProcessWatch.Proofs.Roster.Models
Purpose: When a roster pictures a store, and that starts, exits and orders keep the picture true.
Trusted boundary: none
Main exports: Index.Marked, Roster.Models, Roster.Models.makeRoom, Roster.Models.commitStart,
  Roster.Models.commitExit, Roster.Models.clear, Roster.Models.resetStatistics
-/
import ProcessWatch.Proofs.Index.Records
import ProcessWatch.Proofs.Roster.Basic

namespace ProcessWatch

/-- The entries that came since the last reset of the counters are those with the present mark. -/
def Index.Marked (index : Index) (epoch : Nat) (firstCounted : RecordId) : Prop :=
  ∀ (id : RecordId) (entry : Entry), index.arena[id]? = some entry →
    entry.epoch ≤ epoch ∧ (entry.epoch = epoch ↔ firstCounted ≤ id)

namespace Index.Marked

variable {index after : Index} {epoch : Nat} {firstCounted : RecordId}

/-- Without entries there is nothing to be marked. -/
theorem clear : index.clear.Marked epoch firstCounted := by
  intro id entry found
  simp [Index.clear] at found

/-- A new entry gets the present mark. -/
theorem insert (marked : index.Marked epoch firstCounted) (early : firstCounted ≤ index.nextId)
    (pid parent : Pid) (name : CommandName) (time : Timestamp) :
    (index.insert pid parent name time epoch).2.Marked epoch firstCounted := by
  intro id entry found
  rw [Coherent.find?_insert] at found
  split at found
  case isTrue here =>
    obtain rfl := Option.some.inj found
    exact ⟨Nat.le_refl _, by simp [← here, early]⟩
  case isFalse => exact marked id entry found

/-- Eviction does not change the marks of those that stay. -/
theorem evicted {entry : Entry} (marked : index.Marked epoch firstCounted)
    (evicted : Coherent.Evicted index after entry) : after.Marked epoch firstCounted := by
  intro id other found
  obtain ⟨-, before, beforeFound, -, epochEq⟩ := evicted.exists_before found
  rw [← epochEq]
  exact marked id before beforeFound

/-- A record that ends keeps its mark. -/
theorem retired {pid : Pid} {entry : Entry} {record : Record}
    (marked : index.Marked epoch firstCounted)
    (retired : Coherent.Retired index after pid entry record) :
    after.Marked epoch firstCounted := by
  intro id other found
  rw [retired.find?] at found
  split at found
  case isTrue here =>
    obtain rfl := Option.some.inj found
    exact marked id entry (here ▸ retired.found)
  case isFalse => exact marked id other found

/-- After a reset no entry has the present mark. -/
theorem reset (marked : index.Marked epoch firstCounted) (coherent : index.Coherent) :
    index.Marked (epoch + 1) index.nextId := by
  intro id entry found
  have bound := (marked id entry found).1
  have below := coherent.lt_nextId found
  constructor
  · exact Nat.le_succ_of_le bound
  · constructor
    · intro same
      exact absurd bound (same ▸ Nat.not_succ_le_self _)
    · intro above
      exact absurd below (Nat.not_lt.mpr above)

end Index.Marked

namespace Roster

/-- The roster pictures the store: it has the same records in the same order, and all else that an
answer can depend on. -/
structure Models (roster : Roster) (store : Store) : Prop where
  coherent : store.index.Coherent
  marked : store.index.Marked store.epoch roster.firstCounted
  records : store.index.records = roster.records
  nextId : store.index.nextId = roster.nextId
  firstCounted_le : roster.firstCounted ≤ roster.nextId
  capacity : store.capacity = roster.capacity
  capacity_pos : 0 < roster.capacity
  room : roster.records.length ≤ roster.capacity
  stats : store.stats = roster.stats
  monitoring : store.monitoring = roster.monitoring
  filter : store.filter = roster.filter
  origin : store.origin = roster.origin

namespace Models

variable {roster : Roster} {store : Store}

/-- A new roster pictures a new store. -/
theorem create (options : Store.Options) (time : Timestamp) :
    (Roster.create options time).Models (Store.create options time).store where
  coherent := Index.Coherent.empty
  marked := by
    intro id entry found
    simp [Store.create] at found
  records := rfl
  nextId := rfl
  firstCounted_le := Nat.le_refl _
  capacity := rfl
  capacity_pos := Nat.lt_of_lt_of_le Nat.one_pos (Nat.le_max_right _ _)
  room := Nat.zero_le _
  stats := rfl
  monitoring := rfl
  filter := rfl
  origin := rfl

/-- The store is as large as the list of the roster is long. -/
theorem size_eq (models : roster.Models store) : store.size = roster.records.length := by
  rw [← models.records, models.coherent.length_records]
  rfl

/-! ## Starts -/

/-- Making room drops the first record of a full store. -/
theorem makeRoom (models : roster.Models store) :
    ∃ index, store.makeRoom =
        (Records.displaced? roster.capacity roster.records, { store with index := index }) ∧
      index.Coherent ∧ index.Marked store.epoch roster.firstCounted ∧
      index.nextId = roster.nextId ∧
      index.records =
        if roster.capacity ≤ roster.records.length then roster.records.tail else roster.records := by
  have fullIff : store.capacity ≤ store.size ↔ roster.capacity ≤ roster.records.length := by
    rw [models.capacity, models.size_eq]
  rw [Store.makeRoom, Records.displaced?]
  by_cases full : roster.capacity ≤ roster.records.length
  · obtain ⟨id, rest, oldest⟩ : ∃ id rest, store.index.recency = id :: rest := by
      have nonempty : store.index.recency.length ≠ 0 := by
        have same := models.size_eq
        have positive := models.capacity_pos
        rw [Store.size, Index.size] at same
        omega
      exact List.exists_cons_of_length_pos (Nat.pos_of_ne_zero nonempty)
    obtain ⟨entry, after, evicts, evicted⟩ := models.coherent.exists_evicted oldest
    have split := models.coherent.records_evicted evicted
    rw [if_pos (fullIff.mpr full), if_pos full, if_pos full, evicts]
    refine ⟨after, ?_, models.coherent.evicted evicted, models.marked.evicted evicted, ?_, ?_⟩
    · rw [← models.records, split]
      rfl
    · rw [evicted.nextId, models.nextId]
    · rw [← models.records, split, List.tail_cons]
  · rw [if_neg (fun fullStore => full (fullIff.mp fullStore)), if_neg full, if_neg full]
    exact ⟨store.index, rfl, models.coherent, models.marked, models.nextId, models.records⟩

/-- What the second step of a start reports. -/
def startResult (roster : Roster) (pid parent : Pid) (name : CommandName) : StartResult :=
  if roster.monitoring then
    .added (Record.started roster.nextId pid parent name roster.clock.now)
      (Records.displaced? roster.capacity roster.records)
  else
    .rejected

/-- A start comes to what the roster says, and keeps the picture true. -/
theorem commitStart (models : roster.Models store) (pid parent : Pid) (name : CommandName) :
    (store.commitStart roster.clock.now pid parent name).1 = startResult roster pid parent name ∧
      (roster.start pid parent name).2.Models
        (store.commitStart roster.clock.now pid parent name).2 := by
  rw [Store.commitStart, Roster.start, startResult]
  by_cases recording : roster.monitoring = true
  · obtain ⟨index, madeRoom, coherent, marked, nextId, records⟩ := models.makeRoom
    have recordEq : (index.insert pid parent name roster.clock.now store.epoch).1 =
        Record.started roster.nextId pid parent name roster.clock.now := by
      rw [← nextId]
      rfl
    have nextIdEq : (index.insert pid parent name roster.clock.now store.epoch).2.nextId =
        roster.nextId + 1 := by
      rw [← nextId]
      rfl
    rw [if_pos (models.monitoring.trans recording), if_pos recording, if_pos recording, madeRoom]
    refine ⟨?_, ?_⟩
    · exact congrArg (StartResult.added · _) recordEq
    · constructor
      case coherent => exact coherent.insert pid parent name roster.clock.now store.epoch
      case marked =>
        exact marked.insert (nextId ▸ models.firstCounted_le) pid parent name roster.clock.now
      case records =>
        have added := coherent.records_insert pid parent name roster.clock.now store.epoch
        rw [records, nextId] at added
        exact added
      case nextId => exact nextIdEq
      case firstCounted_le => exact Nat.le_succ_of_le models.firstCounted_le
      case capacity => exact models.capacity
      case capacity_pos => exact models.capacity_pos
      case room =>
        have room := models.room
        have positive := models.capacity_pos
        simp only [Records.push, List.length_append, List.length_singleton]
        split
        · rw [List.length_tail]
          omega
        · omega
      case stats => exact congrArg Statistics.onStart models.stats
      case monitoring => exact models.monitoring
      case filter => exact models.filter
      case origin => exact models.origin
  · rw [if_neg (models.monitoring ▸ recording), if_neg recording, if_neg recording]
    exact ⟨rfl, models⟩

/-- A start returns the number that the roster gives out. -/
theorem commitStart_id? (models : roster.Models store) (pid parent : Pid) (name : CommandName) :
    (store.commitStart roster.clock.now pid parent name).1.id? =
      (roster.start pid parent name).1 := by
  rw [(models.commitStart pid parent name).1, startResult, Roster.start]
  split <;> rfl

/-! ## Exits -/

/-- What the second step of an exit reports. -/
def exitResult (roster : Roster) (pid : Pid) (code : ExitCode) (usage : Usage) : ExitResult :=
  if roster.monitoring then
    match roster.ending? pid code usage with
    | none => .untracked
    | some record => .retired record
  else
    .rejected

/-- The mark of an entry decides as its number does whether its exit counts. -/
theorem countExit_eq (models : roster.Models store) {id : RecordId} {held entry : Entry}
    {record : Record} (found : store.index.arena[id]? = some held)
    (epoch : entry.epoch = held.epoch) (same : record.id = id) (usage : Usage) :
    store.countExit entry record usage = roster.countExit record usage := by
  have mark := (models.marked _ _ found).2
  rw [Store.countExit, Roster.countExit, epoch, same, models.stats]
  by_cases counted : held.epoch = store.epoch
  · rw [if_pos counted, if_pos (mark.mp counted)]
  · rw [if_neg counted, if_neg fun above => counted (mark.mpr above)]

/-- An exit comes to what the roster says, and keeps the picture true. -/
theorem commitExit (models : roster.Models store) (pid : Pid) (code : ExitCode) (usage : Usage) :
    (store.commitExit roster.clock.now pid code usage).1 = exitResult roster pid code usage ∧
      (roster.exit pid code usage).Models
        (store.commitExit roster.clock.now pid code usage).2 := by
  rw [Store.commitExit, exitResult, Roster.exit, ending?]
  by_cases recording : roster.monitoring = true
  · rw [if_pos (models.monitoring.trans recording), if_pos recording, if_pos recording,
      ← models.records]
    obtain ⟨ids, chain⟩ := models.coherent.chains pid
    cases ids with
    | nil =>
        rw [models.coherent.lastRunning?_of_nil chain, Index.Coherent.detachNewest_of_nil chain]
        exact ⟨rfl, models⟩
    | cons id rest =>
        obtain ⟨entry, detached, rfl, detaches, retires⟩ := models.coherent.exists_retired chain
        let ended := entry.record.ended roster.clock.now code usage
        have retired := retires ended rfl
        have coherent := models.coherent.retired retired rfl rfl rfl chain
        have running := Record.exit?_of_isRunning retired.running.2 roster.clock.now code usage
        have last := models.coherent.lastRunning?_of_cons chain
        rw [Index.recordAt_of_find? retired.found] at last
        rw [last, detaches]
        simp only [Option.map_some, running]
        refine ⟨trivial, ?_⟩
        constructor
        case coherent => exact coherent
        case marked => exact models.marked.retired retired
        case records => exact models.coherent.records_retired retired coherent chain
        case nextId => exact retired.nextId.trans models.nextId
        case firstCounted_le => exact models.firstCounted_le
        case capacity => exact models.capacity
        case capacity_pos => exact models.capacity_pos
        case room =>
          simpa [models.records] using models.room
        case stats =>
          show store.countExit _ ended usage = roster.countExit ended usage
          apply models.countExit_eq retired.found <;> rfl
        case monitoring => exact models.monitoring
        case filter => exact models.filter
        case origin => exact models.origin
  · rw [if_neg (models.monitoring ▸ recording), if_neg recording, if_neg recording]
    exact ⟨rfl, models⟩

/-! ## Orders -/

theorem setMonitoring (models : roster.Models store) (monitoring : Bool) :
    (roster.setMonitoring monitoring).Models (store.setMonitoring monitoring) :=
  { models with monitoring := rfl }

/-- Clearing keeps the picture true. -/
theorem clear (models : roster.Models store) :
    roster.clear.Models { store with index := store.index.clear } :=
  { models with
    coherent := models.coherent.clear
    marked := Index.Marked.clear
    records := Index.Coherent.records_clear store.index
    room := Nat.zero_le _ }

/-- Resetting the counters keeps it true: a new mark begins at the next number. -/
theorem resetStatistics (models : roster.Models store) :
    roster.resetStatistics.Models store.resetStatistics.store :=
  { models with
    marked := by
      have reset := models.marked.reset models.coherent
      rw [models.nextId] at reset
      exact reset
    firstCounted_le := Nat.le_refl _
    stats := rfl }

theorem setFilter (models : roster.Models store) (filter : Filter) :
    ({ roster with filter := filter } : Roster).Models { store with filter := filter } :=
  { models with filter := rfl }

theorem setClock (models : roster.Models store) (clock : Clock) :
    ({ roster with clock := clock } : Roster).Models store :=
  { models with }

end Models

end Roster

end ProcessWatch
