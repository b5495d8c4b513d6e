/-
Module: ProcessWatch.Proofs.Index.Coherence
Purpose: What holds of an index in every state: all ways to reach its records lead to the same ones,
  and the running records of each process number form a chain.
Trusted boundary: none
Main exports: Index.Coherent, Index.Coherent.insert, Index.Coherent.evicted,
  Index.Coherent.retired, Index.Coherent.clear
-/
import ProcessWatch.Proofs.Index.Chain
import Mathlib.Data.List.Range

namespace ProcessWatch.Index

/-- The ways to reach the records agree.

The record numbers are the last ones that were given out, so that the oldest record is the one with
the smallest number; and whether a record runs decides whether it is on the chain of its process
number. -/
structure Coherent (index : Index) : Prop where
  recency : index.recency = List.range' (index.nextId - index.size) index.size
  size_lt : index.size < index.nextId
  held : ∀ id, id ∈ index.arena ↔ id ∈ index.recency
  own : ∀ (id : RecordId) (entry : Entry), index.arena[id]? = some entry → entry.record.id = id
  starts : ∀ key : StartKey, key ∈ index.byStart ↔
    ∃ entry, index.arena[key.id]? = some entry ∧ entry.record.startedAt = key.startedAt
  chains : ∀ pid, ∃ ids, IsChain index pid ids
  settled : ∀ (id : RecordId) (entry : Entry), index.arena[id]? = some entry →
    entry.record.isRunning = false → entry.older = none

namespace Coherent

variable {index : Index}

/-! ## Record numbers -/

theorem oldest_add_size (coherent : index.Coherent) :
    index.nextId - index.size + index.size = index.nextId :=
  Nat.sub_add_cancel (Nat.le_of_lt coherent.size_lt)

/-- The records that are held have the last numbers that were given out. -/
theorem mem_recency_iff (coherent : index.Coherent) (id : RecordId) :
    id ∈ index.recency ↔ index.nextId - index.size ≤ id ∧ id < index.nextId := by
  rw [coherent.recency, List.mem_range'_1, coherent.oldest_add_size]

/-- No entry has a number that is still to be given out. -/
theorem lt_nextId (coherent : index.Coherent) {id : RecordId} {entry : Entry}
    (found : index.arena[id]? = some entry) : id < index.nextId := by
  have there : id ∈ index.arena := Std.TreeMap.mem_iff_isSome_getElem?.mpr (by simp [found])
  exact ((coherent.mem_recency_iff id).mp ((coherent.held id).mp there)).2

/-- Each number of the recency leads to an entry with that number. -/
theorem exists_entry (coherent : index.Coherent) {id : RecordId} (member : id ∈ index.recency) :
    ∃ entry, index.arena[id]? = some entry ∧ entry.record.id = id := by
  have there := Std.TreeMap.mem_iff_isSome_getElem?.mp ((coherent.held id).mpr member)
  obtain ⟨entry, found⟩ := Option.isSome_iff_exists.mp there
  exact ⟨entry, found, coherent.own id entry found⟩

/-- Records come in the order of their numbers. -/
theorem ascending (coherent : index.Coherent) : index.recency.Pairwise (· < ·) := by
  rw [coherent.recency]
  exact List.pairwise_lt_range'

theorem nodup (coherent : index.Coherent) : index.recency.Nodup :=
  coherent.ascending.imp Nat.ne_of_lt

theorem runs_lt_nextId (coherent : index.Coherent) {pid : Pid} {id : RecordId}
    (runs : Runs index.arena pid id) : id < index.nextId := by
  obtain ⟨entry, found, -⟩ := runs
  exact coherent.lt_nextId found

/-! ## The empty index -/

theorem clear_of_pos (positive : 0 < index.nextId) : index.clear.Coherent where
  recency := rfl
  size_lt := positive
  held := by simp [Index.clear]
  own := by simp [Index.clear]
  starts := by simp [Index.clear]
  chains := by
    intro pid
    refine ⟨[], ?_, List.Pairwise.nil, ?_⟩
    · simpa [Index.clear] using Leads.done
    · simp [Runs, Index.clear]
  settled := by simp [Index.clear]

/-- Removing every record leaves a coherent index. -/
theorem clear (coherent : index.Coherent) : index.clear.Coherent :=
  clear_of_pos (Nat.lt_of_le_of_lt (Nat.zero_le _) coherent.size_lt)

theorem empty : ({} : Index).Coherent := by
  have cleared : ({} : Index).clear.Coherent := clear_of_pos Nat.one_pos
  exact cleared

/-! ## A new record -/

section Insert

variable (pid parent : Pid) (name : CommandName) (time : Timestamp) (epoch : Nat)

/-- An insertion puts the new entry under its number and leaves all others. -/
theorem find?_insert (id : RecordId) :
    (index.insert pid parent name time epoch).2.arena[id]? =
      if index.nextId = id then
        some ⟨Record.started index.nextId pid parent name time, epoch, index.newest[pid]?⟩
      else
        index.arena[id]? := by
  simp only [Index.insert, Std.TreeMap.getElem?_insert, Std.LawfulEqCmp.compare_eq_iff_eq]
  rfl

/-- After an insertion the new record runs, and what ran before still does. -/
theorem runs_insert (other : Pid) (id : RecordId) :
    Runs (index.insert pid parent name time epoch).2.arena other id ↔
      if index.nextId = id then pid = other else Runs index.arena other id := by
  by_cases here : index.nextId = id
  · simp [Runs, find?_insert, here, Record.started, Record.isRunning]
  · simp [Runs, find?_insert, here]

/-- A new record comes in front of the chain of its process number and leaves all others alone. -/
theorem isChain_insert (coherent : index.Coherent) {other : Pid} {ids : List RecordId}
    (chain : IsChain index other ids) :
    IsChain (index.insert pid parent name time epoch).2 other
      (if pid = other then index.nextId :: ids else ids) := by
  have old : ∀ id ∈ ids, id < index.nextId := fun id member =>
    coherent.runs_lt_nextId ((chain.mem_iff id).mp member)
  have leads : Leads (index.insert pid parent name time epoch).2.arena index.newest[other]? ids := by
    apply chain.leads.of_agree
    intro id member
    rw [find?_insert, if_neg (Nat.ne_of_gt (old id member))]
  have newest : (index.insert pid parent name time epoch).2.newest[other]? =
      if pid = other then some index.nextId else index.newest[other]? := by
    simp only [Index.insert, Std.TreeMap.getElem?_insert, Std.LawfulEqCmp.compare_eq_iff_eq]
    rfl
  by_cases same : pid = other
  · subst same
    rw [if_pos rfl]
    refine ⟨?_, List.pairwise_cons.mpr ⟨old, chain.descending⟩, ?_⟩
    · rw [newest, if_pos rfl]
      exact .step (by rw [find?_insert, if_pos rfl]) leads
    · intro id
      rw [runs_insert, List.mem_cons, chain.mem_iff]
      by_cases here : index.nextId = id
      · simp [here]
      · simp [here, Ne.symm here]
  · rw [if_neg same]
    refine ⟨?_, chain.descending, ?_⟩
    · rwa [newest, if_neg same]
    · intro id
      rw [runs_insert, chain.mem_iff]
      by_cases here : index.nextId = id
      · subst here
        simpa [same] using fun runs => Nat.lt_irrefl _ (coherent.runs_lt_nextId runs)
      · rw [if_neg here]

/-- Inserting a record keeps an index coherent. -/
theorem insert (coherent : index.Coherent) :
    (index.insert pid parent name time epoch).2.Coherent := by
  have fresh : index.nextId ∉ index.recency := fun member =>
    Nat.lt_irrefl _ ((coherent.mem_recency_iff _).mp member).2
  have recencyEq : (index.insert pid parent name time epoch).2.recency =
      index.recency ++ [index.nextId] := rfl
  have nextEq : (index.insert pid parent name time epoch).2.nextId = index.nextId + 1 := rfl
  have sizeEq : (index.insert pid parent name time epoch).2.size = index.size + 1 := by
    simp [size, recencyEq]
  constructor
  case recency =>
    rw [recencyEq, nextEq, sizeEq, List.range'_concat, Nat.add_sub_add_right, ← coherent.recency,
      Nat.one_mul, coherent.oldest_add_size]
  case size_lt =>
    rw [nextEq, sizeEq]
    exact Nat.succ_lt_succ coherent.size_lt
  case held =>
    intro id
    rw [Std.TreeMap.mem_iff_isSome_getElem?, find?_insert, recencyEq, List.mem_append,
      List.mem_singleton, ← coherent.held, Std.TreeMap.mem_iff_isSome_getElem?]
    by_cases here : index.nextId = id
    · simp [here]
    · simp [here, Ne.symm here]
  case own =>
    intro id entry found
    rw [find?_insert] at found
    split at found
    · obtain rfl := Option.some.inj found
      assumption
    · exact coherent.own id entry found
  case starts =>
    intro key
    have added : key ∈ (index.insert pid parent name time epoch).2.byStart ↔
        ⟨time, index.nextId⟩ = key ∨ key ∈ index.byStart := by
      simp only [Index.insert, Std.TreeSet.mem_insert, Std.LawfulEqCmp.compare_eq_iff_eq]
      rfl
    obtain ⟨startedAt, id⟩ := key
    rw [added, coherent.starts, find?_insert]
    by_cases here : index.nextId = id
    · have absent : index.arena[id]? = none := by
        rw [← here]
        exact Std.TreeMap.getElem?_eq_none (fun there => fresh ((coherent.held _).mp there))
      simp [here, absent, Record.started]
    · simp [here]
  case chains =>
    intro other
    obtain ⟨ids, chain⟩ := coherent.chains other
    exact ⟨_, isChain_insert pid parent name time epoch coherent chain⟩
  case settled =>
    intro id entry found stopped
    rw [find?_insert] at found
    split at found
    · obtain rfl := Option.some.inj found
      simp [Record.started, Record.isRunning] at stopped
    · exact coherent.settled id entry found stopped

end Insert

/-! ## The oldest record leaves -/

/-- What taking an entry out of an index does. -/
structure Evicted (index after : Index) (entry : Entry) : Prop where
  recency : index.recency = entry.record.id :: after.recency
  nextId : after.nextId = index.nextId
  byStart : after.byStart = index.byStart.erase ⟨entry.record.startedAt, entry.record.id⟩
  found : index.arena[entry.record.id]? = some entry
  find? : ∀ id : RecordId, after.arena[id]?.map Entry.unlinked =
    if entry.record.id = id then none else index.arena[id]?.map Entry.unlinked
  chains : ∀ pid ids, IsChain index pid ids → IsChain after pid (ids.erase entry.record.id)
  settled : ∀ (id : RecordId) (other : Entry), after.arena[id]? = some other →
    other.record.isRunning = false → other.older = none

/-- The chains of an index that loses an entry which does not run. -/
theorem isChain_remove_of_stopped {removed : Index} {entry : Entry} {id : RecordId}
    (found : index.arena[id]? = some entry) (stopped : entry.record.isRunning = false)
    (arena : removed.arena = index.arena.erase id) (newest : removed.newest = index.newest)
    {pid : Pid} {ids : List RecordId} (chain : IsChain index pid ids) :
    IsChain removed pid (ids.erase id) := by
  have absent : id ∉ ids := by
    intro member
    obtain ⟨other, otherFound, -, running⟩ := (chain.mem_iff id).mp member
    rw [found] at otherFound
    obtain rfl := Option.some.inj otherFound
    simp [stopped] at running
  have same : ∀ other ∈ ids, removed.arena[other]? = index.arena[other]? := by
    intro other member
    have differs : id ≠ other := fun equal => absent (equal ▸ member)
    simp only [arena, Std.TreeMap.getElem?_erase, Std.LawfulEqCmp.compare_eq_iff_eq, differs,
      if_false]
  rw [List.erase_of_not_mem absent]
  refine ⟨newest ▸ chain.leads.of_agree same, chain.descending, ?_⟩
  intro other
  rw [chain.mem_iff, Runs, Runs]
  simp only [arena, Std.TreeMap.getElem?_erase, Std.LawfulEqCmp.compare_eq_iff_eq]
  by_cases here : id = other
  · subst here
    simp [found, stopped]
  · simp [here]

/-- The record that came first leaves, and nothing else changes. -/
theorem exists_evicted (coherent : index.Coherent) {id : RecordId} {rest : List RecordId}
    (oldest : index.recency = id :: rest) :
    ∃ entry after, index.evictOldest = (some entry, after) ∧ Evicted index after entry := by
  obtain ⟨entry, found, rfl⟩ := coherent.exists_entry (oldest ▸ List.mem_cons_self : id ∈ _)
  let removed := ({ index with recency := rest } : Index).remove entry.record.id entry
  have evicts : index.evictOldest =
      (some entry, if entry.record.isRunning then removed.unlink entry else removed) := by
    simp only [evictOldest, oldest, found]
    rfl
  have findRemoved : ∀ other : RecordId, removed.arena[other]? =
      if entry.record.id = other then none else index.arena[other]? := by
    intro other
    simp only [removed, remove, Std.TreeMap.getElem?_erase, Std.LawfulEqCmp.compare_eq_iff_eq]
  have settledRemoved : ∀ (id : RecordId) (other : Entry), removed.arena[id]? = some other →
      other.record.isRunning = false → other.older = none := by
    intro id other otherFound stopped
    rw [findRemoved] at otherFound
    split at otherFound
    · cases otherFound
    · exact coherent.settled id other otherFound stopped
  refine ⟨entry, _, evicts, ?_⟩
  by_cases running : entry.record.isRunning = true
  · obtain ⟨ids, chain⟩ := coherent.chains entry.record.pid
    have conditions : Removed index removed entry ids := ⟨chain, found, running, rfl, rfl⟩
    obtain ⟨recencyEq, byStartEq, nextEq⟩ := unlink_frame removed entry
    rw [if_pos running]
    refine ⟨by rw [recencyEq, oldest]; rfl, nextEq, byStartEq, found, ?_, ?_, ?_⟩
    · intro other
      rw [conditions.find?_unlink, findRemoved]
      split <;> rfl
    · intro pid others other
      exact conditions.isChain_unlink_erase other
    · intro id other otherFound stopped
      exact settledRemoved id other (conditions.find?_unlink_of_stopped otherFound stopped) stopped
  · rw [if_neg running]
    refine ⟨oldest, rfl, rfl, found, ?_, ?_, settledRemoved⟩
    · intro other
      rw [findRemoved]
      split <;> rfl
    · intro pid ids chain
      refine isChain_remove_of_stopped found (by simpa using running) ?_ ?_ chain <;> rfl

namespace Evicted

variable {after : Index} {entry : Entry}

/-- An entry that is left was there before, with the same record. -/
theorem exists_before (evicted : Evicted index after entry) {id : RecordId} {other : Entry}
    (found : after.arena[id]? = some other) :
    entry.record.id ≠ id ∧ ∃ before, index.arena[id]? = some before ∧
      before.record = other.record ∧ before.epoch = other.epoch := by
  have same := evicted.find? id
  rw [found] at same
  split at same
  case isTrue => cases same
  case isFalse differs =>
    obtain ⟨before, beforeFound, equal⟩ := Option.map_eq_some_iff.mp same.symm
    exact ⟨differs, before, beforeFound, record_eq_of_unlinked equal, epoch_eq_of_unlinked equal⟩

/-- An entry that was there before is left, with the same record, unless it is the one that went. -/
theorem exists_after (evicted : Evicted index after entry) {id : RecordId} {before : Entry}
    (found : index.arena[id]? = some before) (differs : entry.record.id ≠ id) :
    ∃ other, after.arena[id]? = some other ∧ other.record = before.record := by
  have same := evicted.find? id
  rw [if_neg differs, found] at same
  obtain ⟨other, otherFound, equal⟩ := Option.map_eq_some_iff.mp same
  exact ⟨other, otherFound, record_eq_of_unlinked equal⟩

end Evicted

/-- Evicting the oldest record keeps an index coherent, whether it ran or not. -/
theorem evicted {after : Index} {entry : Entry} (coherent : index.Coherent)
    (evicted : Evicted index after entry) : after.Coherent := by
  have sizeEq : index.size = after.size + 1 := by
    simp [size, evicted.recency]
  have split := coherent.recency
  rw [evicted.recency, sizeEq, List.range'_succ, List.cons.injEq] at split
  have absent : entry.record.id ∉ after.recency := by
    have nodup := coherent.nodup
    rw [evicted.recency] at nodup
    exact (List.nodup_cons.mp nodup).1
  constructor
  case recency =>
    rw [split.2, evicted.nextId]
    have bound : after.size < index.nextId :=
      Nat.lt_trans (sizeEq ▸ Nat.lt_succ_self _) coherent.size_lt
    rw [Nat.sub_add_eq, Nat.sub_add_cancel (Nat.sub_pos_of_lt bound)]
  case size_lt =>
    have bound := coherent.size_lt
    rw [evicted.nextId]
    omega
  case held =>
    intro id
    have same := congrArg Option.isSome (evicted.find? id)
    rw [Option.isSome_map] at same
    rw [Std.TreeMap.mem_iff_isSome_getElem?, same]
    by_cases here : entry.record.id = id
    · subst here
      simp [absent]
    · rw [if_neg here, Option.isSome_map, ← Std.TreeMap.mem_iff_isSome_getElem?, coherent.held,
        evicted.recency, List.mem_cons]
      simp [Ne.symm here]
  case own =>
    intro id other found
    obtain ⟨-, before, beforeFound, same, -⟩ := evicted.exists_before found
    rw [← same]
    exact coherent.own id before beforeFound
  case starts =>
    intro key
    have left : key ∈ after.byStart ↔
        ⟨entry.record.startedAt, entry.record.id⟩ ≠ key ∧ key ∈ index.byStart := by
      simp only [evicted.byStart, Std.TreeSet.mem_erase, Std.LawfulEqCmp.compare_eq_iff_eq, ne_eq]
    rw [left, coherent.starts]
    constructor
    · intro member
      rcases member with ⟨differs, before, found, startedAt⟩
      have elsewhere : entry.record.id ≠ key.id := by
        intro here
        rw [← here, evicted.found] at found
        obtain rfl := Option.some.inj found
        exact differs (by rw [startedAt, here])
      obtain ⟨other, otherFound, same⟩ := evicted.exists_after found elsewhere
      exact ⟨other, otherFound, by rw [same, startedAt]⟩
    · intro member
      rcases member with ⟨other, found, startedAt⟩
      obtain ⟨elsewhere, before, beforeFound, same, -⟩ := evicted.exists_before found
      refine ⟨?_, before, beforeFound, by rw [same, startedAt]⟩
      intro equal
      exact elsewhere (by rw [← equal])
  case chains =>
    intro pid
    obtain ⟨ids, chain⟩ := coherent.chains pid
    exact ⟨_, evicted.chains pid ids chain⟩
  case settled => exact evicted.settled

/-! ## The newest running record of a process number ends -/

/-- Nothing is detached if no running record is about the process number. -/
theorem detachNewest_of_nil {pid : Pid} (chain : IsChain index pid []) :
    index.detachNewest pid = none := by
  have newest : index.newest[pid]? = none := chain.leads.head_eq
  simp [detachNewest, newest]

/-- Detaching takes the head off the chain. -/
theorem detachNewest_of_cons {pid : Pid} {id : RecordId} {rest : List RecordId}
    (chain : IsChain index pid (id :: rest)) :
    ∃ entry, index.arena[id]? = some entry ∧ Leads index.arena entry.older rest ∧
      index.detachNewest pid = some ({ entry with older := none },
        { index.setNewest pid entry.older with
          arena := index.arena.insert id { entry with older := none } }) := by
  obtain ⟨newest, entry, found, tail⟩ := chain.leads.cons_inv
  refine ⟨entry, found, tail, ?_⟩
  simp [detachNewest, newest, found]

/-- What ending the record of an entry does to an index. -/
structure Retired (index after : Index) (pid : Pid) (entry : Entry) (record : Record) : Prop where
  recency : after.recency = index.recency
  nextId : after.nextId = index.nextId
  byStart : after.byStart = index.byStart
  found : index.arena[entry.record.id]? = some entry
  running : entry.record.pid = pid ∧ entry.record.isRunning = true
  find? : ∀ id : RecordId, after.arena[id]? =
    if entry.record.id = id then some ⟨record, entry.epoch, none⟩ else index.arena[id]?
  newest : ∀ other : Pid, after.newest[other]? =
    if pid = other then entry.older else index.newest[other]?

/-- The entry at the head of a chain is detached, and takes its changed record back. -/
theorem exists_retired (coherent : index.Coherent) {pid : Pid} {id : RecordId}
    {rest : List RecordId} (chain : IsChain index pid (id :: rest)) :
    ∃ entry detached, entry.record.id = id ∧
      index.detachNewest pid = some ({ entry with older := none }, detached) ∧
      ∀ record : Record, record.id = id →
        Retired index (detached.replace ⟨record, entry.epoch, none⟩) pid entry record := by
  obtain ⟨entry, found, -, detaches⟩ := detachNewest_of_cons chain
  have own := coherent.own id entry found
  refine ⟨entry, _, own, detaches, ?_⟩
  intro record same
  obtain ⟨other, otherFound, running⟩ := (chain.mem_iff id).mp List.mem_cons_self
  rw [found] at otherFound
  obtain rfl := Option.some.inj otherFound
  refine ⟨by simp [replace], by simp [replace], by simp [replace], own ▸ found, running, ?_, ?_⟩
  · intro key
    simp only [replace, Std.TreeMap.getElem?_insert, Std.LawfulEqCmp.compare_eq_iff_eq, same, own]
    split <;> rfl
  · intro key
    exact newest_setNewest index pid key entry.older

/-- The head of the chain is gone, and the other chains are as before. -/
theorem isChain_retired {after : Index} {pid : Pid} {entry : Entry} {record : Record}
    {rest : List RecordId} (retired : Retired index after pid entry record)
    (stopped : record.isRunning = false) (chain : IsChain index pid (entry.record.id :: rest))
    {other : Pid} {ids : List RecordId} (otherChain : IsChain index other ids) :
    IsChain after other (if pid = other then rest else ids) := by
  have runs : ∀ id, Runs after.arena other id ↔
      entry.record.id ≠ id ∧ Runs index.arena other id := by
    intro id
    rw [Runs, Runs, retired.find?]
    by_cases here : entry.record.id = id
    · simp [here, stopped]
    · simp [here]
  have same : ∀ {ids : List RecordId}, entry.record.id ∉ ids →
      ∀ id ∈ ids, after.arena[id]? = index.arena[id]? := by
    intro ids absent id member
    rw [retired.find?, if_neg]
    rintro rfl
    exact absent member
  by_cases here : pid = other
  · subst here
    have nodup : (entry.record.id :: rest).Nodup := chain.descending.imp Nat.ne_of_gt
    have absent := (List.nodup_cons.mp nodup).1
    obtain ⟨-, head, headFound, tail⟩ := chain.leads.cons_inv
    rw [retired.found] at headFound
    obtain rfl := Option.some.inj headFound
    rw [if_pos rfl]
    refine ⟨?_, (List.pairwise_cons.mp chain.descending).2, ?_⟩
    · rw [retired.newest, if_pos rfl]
      exact tail.of_agree (same absent)
    · intro id
      rw [runs, ← chain.mem_iff, List.mem_cons]
      constructor
      · intro member
        exact ⟨fun equal => absent (equal ▸ member), Or.inr member⟩
      · rintro ⟨differs, rfl | member⟩
        · exact absurd rfl differs
        · exact member
  · have absent : entry.record.id ∉ ids := fun member =>
      here (Runs.pid_eq ⟨entry, retired.found, retired.running⟩ ((otherChain.mem_iff _).mp member))
    rw [if_neg here]
    refine ⟨?_, otherChain.descending, ?_⟩
    · rw [retired.newest, if_neg here]
      exact otherChain.leads.of_agree (same absent)
    · intro id
      rw [runs, otherChain.mem_iff]
      constructor
      · intro running
        refine ⟨?_, running⟩
        rintro rfl
        exact absent ((otherChain.mem_iff _).mpr running)
      · exact And.right

/-- Ending the newest running record about a process number keeps an index coherent. -/
theorem retired {after : Index} {pid : Pid} {entry : Entry} {record : Record}
    {rest : List RecordId} (coherent : index.Coherent)
    (retired : Retired index after pid entry record) (id : record.id = entry.record.id)
    (startedAt : record.startedAt = entry.record.startedAt) (stopped : record.isRunning = false)
    (chain : IsChain index pid (entry.record.id :: rest)) : after.Coherent := by
  have sizeEq : after.size = index.size := by
    rw [size, size, retired.recency]
  constructor
  case recency => rw [retired.recency, retired.nextId, sizeEq, coherent.recency]
  case size_lt =>
    rw [retired.nextId, sizeEq]
    exact coherent.size_lt
  case held =>
    intro key
    rw [Std.TreeMap.mem_iff_isSome_getElem?, retired.find?, retired.recency, ← coherent.held,
      Std.TreeMap.mem_iff_isSome_getElem?]
    split
    · subst key
      simp [retired.found]
    · rfl
  case own =>
    intro key other found
    rw [retired.find?] at found
    split at found
    · obtain rfl := Option.some.inj found
      exact id.trans (by assumption)
    · exact coherent.own key other found
  case starts =>
    intro key
    rw [retired.byStart, coherent.starts, retired.find?]
    split
    case isTrue here => simp [← here, retired.found, startedAt]
    case isFalse => rfl
  case chains =>
    intro other
    obtain ⟨ids, otherChain⟩ := coherent.chains other
    exact ⟨_, isChain_retired retired stopped chain otherChain⟩
  case settled =>
    intro key other found ended
    rw [retired.find?] at found
    split at found
    · obtain rfl := Option.some.inj found
      rfl
    · exact coherent.settled key other found ended

end Coherent

end ProcessWatch.Index
