/-
Module: ProcessWatch.Proofs.Index.Records
Purpose: An index as the plain list of its records in the order in which they came, and what each
  operation on the index does to that list.
Trusted boundary: none
Main exports: Index.records, Index.Coherent.records_insert, Index.Coherent.records_evicted,
  Index.Coherent.records_retired, Index.Coherent.newestRunning?_eq
-/
import ProcessWatch.Proofs.Index.Coherence
import ProcessWatch.Proofs.Records

namespace ProcessWatch.Index

/-- All records in the order in which they came. -/
def records (index : Index) : List Record := index.oldestFirst.map Entry.record

/-- The record with a number that belongs to an entry. -/
def recordAt (arena : Arena) (id : RecordId) : Record :=
  (arena[id]?.map Entry.record).getD default

theorem recordAt_of_find? {arena : Arena} {id : RecordId} {entry : Entry}
    (found : arena[id]? = some entry) : recordAt arena id = entry.record := by
  simp [recordAt, found]

/-- Which record a number leads to does not depend on the links. -/
theorem recordAt_congr {first second : Arena} {id : RecordId}
    (same : first[id]?.map Entry.record = second[id]?.map Entry.record) :
    recordAt first id = recordAt second id := by
  rw [recordAt, recordAt, same]

theorem runsAs_recordAt {arena : Arena} {id : RecordId} (there : id ∈ arena) (pid : Pid) :
    (recordAt arena id).runsAs pid = true ↔ Runs arena pid id := by
  obtain ⟨entry, found⟩ := Option.isSome_iff_exists.mp (Std.TreeMap.mem_iff_isSome_getElem?.mp there)
  rw [recordAt_of_find? found, Record.runsAs_iff]
  constructor
  · intro runs
    exact ⟨entry, found, runs⟩
  · intro runs
    rcases runs with ⟨other, otherFound, runs⟩
    rw [found] at otherFound
    obtain rfl := Option.some.inj otherFound
    exact runs

/-- The entries of held numbers are about the records with these numbers. -/
theorem map_record_entries {index : Index} {ids : List RecordId}
    (held : ∀ id ∈ ids, id ∈ index.arena) :
    (index.entries ids).map Entry.record = ids.map (recordAt index.arena) := by
  induction ids with
  | nil => rfl
  | cons id ids inductionHypothesis =>
      have there := Std.TreeMap.mem_iff_isSome_getElem?.mp (held id List.mem_cons_self)
      obtain ⟨entry, found⟩ := Option.isSome_iff_exists.mp there
      have rest := inductionHypothesis fun other member => held other (List.mem_cons_of_mem _ member)
      rw [entries] at rest ⊢
      simp [found, rest, recordAt_of_find? found]

namespace Coherent

variable {index : Index}

/-- The records stand in the order of the recency. -/
theorem records_eq (coherent : index.Coherent) :
    index.records = index.recency.map (recordAt index.arena) :=
  map_record_entries fun id => (coherent.held id).mpr

@[simp] theorem length_records (coherent : index.Coherent) :
    index.records.length = index.size := by
  rw [coherent.records_eq, List.length_map, size]

/-- A held number leads to the record that has it. -/
theorem id_recordAt (coherent : index.Coherent) {id : RecordId} (member : id ∈ index.recency) :
    (recordAt index.arena id).id = id := by
  obtain ⟨entry, found, own⟩ := coherent.exists_entry member
  rw [recordAt_of_find? found, own]

/-- The records stand in the order of their numbers. -/
theorem map_id_records (coherent : index.Coherent) :
    index.records.map Record.id = index.recency := by
  rw [coherent.records_eq, List.map_map]
  calc index.recency.map (Record.id ∘ recordAt index.arena)
    _ = index.recency.map id := List.map_congr_left fun _ member => coherent.id_recordAt member
    _ = index.recency := List.map_id _

/-! ## Reading -/

/-- The most recent entries are about the last records. -/
theorem map_record_mostRecent (coherent : index.Coherent) (count : Nat) :
    (index.mostRecent count).map Entry.record =
      index.records.drop (index.records.length - count) := by
  have held : ∀ id ∈ index.recency.drop (index.recency.length - count), id ∈ index.arena :=
    fun id member => (coherent.held id).mpr (List.mem_of_mem_drop member)
  rw [mostRecent, map_record_entries held, coherent.records_eq, List.length_map, List.map_drop]

/-- Where the head of a chain stands among all records. -/
theorem exists_split (coherent : index.Coherent) {pid : Pid} {id : RecordId}
    {rest : List RecordId} (chain : IsChain index pid (id :: rest)) :
    ∃ before after, index.recency = before ++ id :: after ∧
      ∀ later ∈ after, (recordAt index.arena later).runsAs pid = false := by
  have runs := (chain.mem_iff id).mp List.mem_cons_self
  have member : id ∈ index.recency := by
    obtain ⟨entry, found, -⟩ := runs
    exact (coherent.held id).mp (Std.TreeMap.mem_iff_isSome_getElem?.mpr (by simp [found]))
  obtain ⟨before, after, split⟩ := List.append_of_mem member
  refine ⟨before, after, split, fun later inside => ?_⟩
  have ascending := coherent.ascending
  rw [split, List.pairwise_append] at ascending
  have above : id < later := (List.pairwise_cons.mp ascending.2.1).1 later inside
  have there : later ∈ index.arena := (coherent.held later).mpr (by simp [split, inside])
  -- A later running record would stand before the head of the chain.
  by_contra running
  have laterRuns := (runsAs_recordAt there pid).mp (by simpa using running)
  rcases List.mem_cons.mp ((chain.mem_iff later).mpr laterRuns) with rfl | onChain
  · exact Nat.lt_irrefl _ above
  · exact Nat.lt_asymm above ((List.pairwise_cons.mp chain.descending).1 later onChain)

/-- Without a chain no record about the process number runs. -/
theorem lastRunning?_of_nil (coherent : index.Coherent) {pid : Pid}
    (chain : IsChain index pid []) : Records.lastRunning? index.records pid = none := by
  apply Records.lastRunning?_eq_none_iff.mpr
  intro record member
  rw [coherent.records_eq] at member
  obtain ⟨id, inside, rfl⟩ := List.mem_map.mp member
  by_contra running
  have runs := (runsAs_recordAt ((coherent.held id).mpr inside) pid).mp (by simpa using running)
  exact List.not_mem_nil ((chain.mem_iff id).mpr runs)

/-- The last running record about a process number is the one at the head of its chain. -/
theorem lastRunning?_of_cons (coherent : index.Coherent) {pid : Pid} {id : RecordId}
    {rest : List RecordId} (chain : IsChain index pid (id :: rest)) :
    Records.lastRunning? index.records pid = some (recordAt index.arena id) := by
  obtain ⟨before, after, split, noneAfter⟩ := coherent.exists_split chain
  have there : id ∈ index.arena := (coherent.held id).mpr (by simp [split])
  refine Records.lastRunning?_eq_some_iff.mpr
    ⟨before.map (recordAt index.arena), after.map (recordAt index.arena), ?_, ?_, ?_⟩
  · rw [coherent.records_eq, split, List.map_append, List.map_cons]
  · exact (runsAs_recordAt there pid).mpr ((chain.mem_iff id).mp List.mem_cons_self)
  · intro later member
    obtain ⟨other, inside, rfl⟩ := List.mem_map.mp member
    exact noneAfter other inside

/-- The newest running entry is the last running record of the list. -/
theorem newestRunning?_eq (coherent : index.Coherent) (pid : Pid) :
    (index.newestRunning? pid).map Entry.record = Records.lastRunning? index.records pid := by
  obtain ⟨ids, chain⟩ := coherent.chains pid
  cases ids with
  | nil =>
      have newest : index.newest[pid]? = none := chain.leads.head_eq
      rw [coherent.lastRunning?_of_nil chain, newestRunning?, newest]
      rfl
  | cons id rest =>
      obtain ⟨newest, entry, found, -⟩ := chain.leads.cons_inv
      rw [coherent.lastRunning?_of_cons chain, recordAt_of_find? found, newestRunning?, newest,
        Option.bind_some, found]
      rfl

/-! ## Changing -/

theorem records_clear (index : Index) : index.clear.records = [] := rfl

/-- An insertion adds a record at the end. -/
theorem records_insert (coherent : index.Coherent) (pid parent : Pid) (name : CommandName)
    (time : Timestamp) (epoch : Nat) :
    (index.insert pid parent name time epoch).2.records =
      index.records ++ [Record.started index.nextId pid parent name time] := by
  have recency : (index.insert pid parent name time epoch).2.recency =
      index.recency ++ [index.nextId] := rfl
  rw [(coherent.insert pid parent name time epoch).records_eq, coherent.records_eq, recency,
    List.map_append, List.map_singleton]
  congr 1
  · apply List.map_congr_left
    intro id member
    apply recordAt_congr
    have old := ((coherent.mem_recency_iff id).mp member).2
    rw [find?_insert, if_neg (Nat.ne_of_gt old)]
  · rw [recordAt, find?_insert, if_pos rfl]
    rfl

/-- An eviction takes the first record away. -/
theorem records_evicted {after : Index} {entry : Entry} (coherent : index.Coherent)
    (evicted : Evicted index after entry) : index.records = entry.record :: after.records := by
  have nodup := coherent.nodup
  rw [evicted.recency] at nodup
  rw [coherent.records_eq, (coherent.evicted evicted).records_eq, evicted.recency, List.map_cons,
    recordAt_of_find? evicted.found]
  congr 1
  apply List.map_congr_left
  intro id member
  apply recordAt_congr
  apply record_of_unlinked_eq
  have differs : entry.record.id ≠ id := fun same =>
    (List.nodup_cons.mp nodup).1 (same ▸ member)
  rw [evicted.find?, if_neg differs]

/-- Ending the head of a chain changes the last running record of the list and no other. -/
theorem records_retired {after : Index} {pid : Pid} {entry : Entry} {rest : List RecordId}
    {change : Record → Record} (coherent : index.Coherent)
    (retired : Retired index after pid entry (change entry.record))
    (coherentAfter : after.Coherent) (chain : IsChain index pid (entry.record.id :: rest)) :
    after.records = Records.changeLastRunning pid change index.records := by
  obtain ⟨before, later, split, noneLater⟩ := coherent.exists_split chain
  have nodup := coherent.nodup
  rw [split] at nodup
  have others : ∀ id, id ≠ entry.record.id → recordAt after.arena id = recordAt index.arena id := by
    intro id differs
    apply recordAt_congr
    rw [retired.find?, if_neg (Ne.symm differs)]
  have changed : recordAt after.arena entry.record.id = change entry.record := by
    rw [recordAt, retired.find?, if_pos rfl]
    rfl
  have untouched : ∀ ids : List RecordId, entry.record.id ∉ ids →
      ids.map (recordAt after.arena) = ids.map (recordAt index.arena) := by
    intro ids absent
    apply List.map_congr_left
    intro id member
    apply others
    rintro rfl
    exact absent member
  have runs : entry.record.runsAs pid = true := Record.runsAs_iff.mpr retired.running
  have absentBefore : entry.record.id ∉ before := by
    intro inside
    exact (List.nodup_append.mp nodup).2.2 _ inside _ (by simp) rfl
  have absentLater : entry.record.id ∉ later :=
    (List.nodup_cons.mp (List.nodup_append.mp nodup).2.1).1
  have noneAfter : ∀ record ∈ later.map (recordAt index.arena), record.runsAs pid = false := by
    intro record member
    obtain ⟨id, inside, rfl⟩ := List.mem_map.mp member
    exact noneLater id inside
  rw [coherentAfter.records_eq, coherent.records_eq, retired.recency, split, List.map_append,
    List.map_append, List.map_cons, List.map_cons, changed, recordAt_of_find? retired.found,
    untouched before absentBefore, untouched later absentLater,
    Records.changeLastRunning_split change runs noneAfter]

end Coherent

end ProcessWatch.Index
