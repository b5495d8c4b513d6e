/-
Module: ProcessWatch.Proofs.Index.Unlinking
Purpose: A running entry is taken out of its chain wherever it stands in it, and nothing else changes.
Trusted boundary: none
Main exports: Index.Removed.unlinks, Index.unlink_anywhere

The index is any one whose chains are in order, with whatever else it holds.  Where records are removed
from the front of the index only, an entry that leaves is the last one of its chain; here it may be the
newest one or stand between two others as well.
-/
import ProcessWatch.Proofs.Index.Coherence
import Mathlib.Data.List.Nodup

namespace ProcessWatch.Index

namespace Removed

variable {index removed : Index} {entry : Entry} {ids : List RecordId}

/-- Unlinking comes to an end, and what it leaves is the index that the budgeted walk gives. -/
theorem unlinks (conditions : Removed index removed entry ids) :
    Unlinks removed entry (removed.unlink entry) := by
  rcases unlinks_cases conditions with ⟨rest, -, unlinks⟩ |
    ⟨before, last, lastEntry, after, -, -, -, -, unlinks⟩
  · exact unlinks.unlink_eq.symm ▸ unlinks
  · exact unlinks.unlink_eq.symm ▸ unlinks

/-- An entry about another process number stays as it is, its link included. -/
theorem find?_unlink_of_pid_ne (conditions : Removed index removed entry ids) {id : RecordId}
    {other : Entry} (found : index.arena[id]? = some other)
    (differs : other.record.pid ≠ entry.record.pid) :
    (removed.unlink entry).arena[id]? = some other := by
  have elsewhere : entry.record.id ≠ id := by
    rintro rfl
    rw [conditions.found] at found
    obtain rfl := Option.some.inj found
    exact differs rfl
  have kept : removed.arena[id]? = some other := by
    rw [conditions.find?, if_neg elsewhere, found]
  rcases unlink_cases conditions with ⟨rest, -, unlinked⟩ |
    ⟨before, last, lastEntry, after, split, -, lastFound, -, unlinked⟩
  · rwa [unlinked, arena_setNewest]
  · have aside : last ≠ id := by
      rintro rfl
      have member : last ∈ ids := by simp [split]
      obtain ⟨running, runningFound, about, -⟩ := (conditions.chain.mem_iff last).mp member
      rw [found] at runningFound
      obtain rfl := Option.some.inj runningFound
      exact differs about
    simpa only [unlinked, Std.TreeMap.getElem?_insert, Std.LawfulEqCmp.compare_eq_iff_eq, aside,
      if_false] using kept

/-- Without the removed entry the chain is what stood before it and what stood behind it. -/
theorem isChain_unlink_append {before after : List RecordId}
    (conditions : Removed index removed entry (before ++ entry.record.id :: after)) :
    IsChain (removed.unlink entry) entry.record.pid (before ++ after) := by
  have absent : entry.record.id ∉ before ++ after :=
    (List.nodup_cons.mp (List.nodup_middle.mp conditions.nodup)).1
  have remaining : (before ++ entry.record.id :: after).erase entry.record.id = before ++ after := by
    rw [List.erase_append_right _ fun early => absent (List.mem_append_left _ early),
      List.erase_cons_head]
  exact remaining ▸ conditions.isChain_unlink

end Removed

/-- Take a running entry out of the arena of an index whose chains are in order.  Unlinking it then
comes to an end wherever it stands.  Its chain is left with what stood before it and behind it, in the
same order, and a process number whose only running entry it was is left without one; the chains and
entries of all other process numbers stay as they are; and of the remaining entries at most a link
changes. -/
theorem unlink_anywhere {index removed : Index} {entry : Entry}
    (chained : ∀ pid, ∃ ids, IsChain index pid ids)
    (found : index.arena[entry.record.id]? = some entry)
    (running : entry.record.isRunning = true)
    (taken : removed.arena = index.arena.erase entry.record.id)
    (newest : removed.newest = index.newest) :
    let unlinked := removed.unlink entry
    Unlinks removed entry unlinked ∧
      (∀ before after, IsChain index entry.record.pid (before ++ entry.record.id :: after) →
        IsChain unlinked entry.record.pid (before ++ after) ∧
          (before ++ after = [] → entry.record.pid ∉ unlinked.newest)) ∧
      (∀ pid, pid ≠ entry.record.pid → unlinked.newest[pid]? = index.newest[pid]? ∧
        ∀ ids, IsChain index pid ids → IsChain unlinked pid ids) ∧
      (∀ (id : RecordId) (other : Entry), index.arena[id]? = some other →
        other.record.pid ≠ entry.record.pid → unlinked.arena[id]? = some other) ∧
      ∀ id : RecordId, unlinked.arena[id]?.map Entry.unlinked =
        if entry.record.id = id then none else index.arena[id]?.map Entry.unlinked := by
  intro unlinked
  obtain ⟨ids, chain⟩ := chained entry.record.pid
  have conditions : Removed index removed entry ids := ⟨chain, found, running, taken, newest⟩
  refine ⟨conditions.unlinks, ?_, ?_, ?_, ?_⟩
  · intro before after whole
    have left := Removed.isChain_unlink_append ⟨whole, found, running, taken, newest⟩
    refine ⟨left, fun alone listed => ?_⟩
    have head := left.leads.head_eq
    rw [alone] at head
    rw [Std.TreeMap.mem_iff_isSome_getElem?, head] at listed
    cases listed
  · intro pid differs
    have kept : ∀ others, IsChain index pid others → IsChain unlinked pid others := fun others =>
      conditions.isChain_unlink_other differs
    obtain ⟨others, chain⟩ := chained pid
    exact ⟨(kept others chain).leads.head_eq.trans chain.leads.head_eq.symm, kept⟩
  · exact fun id other => conditions.find?_unlink_of_pid_ne
  · intro id
    rw [conditions.find?_unlink, conditions.find?]
    split
    · rfl
    · rfl

/-- Of three running entries about process number 7 the one in the middle goes, while number 8 has one
of its own. -/
theorem unlink_anywhere_of_middle :
    let name := CommandName.empty
    let index := [7, 7, 7, 8].foldl (fun index pid => (index.insert pid 1 name 5 0).2) ({} : Index)
    let entry : Entry := ⟨Record.started 2 7 1 name 5, 0, some 1⟩
    let removed := index.remove 2 entry
    (∀ pid, ∃ ids, IsChain index pid ids) ∧ index.arena[entry.record.id]? = some entry ∧
      IsChain index 7 [3, 2, 1] ∧ IsChain (removed.unlink entry) 7 [3, 1] ∧
      (removed.unlink entry).newest[(8 : Pid)]? = some 4 := by
  intro name index entry removed
  have first := Coherent.insert 7 1 name 5 0 Coherent.empty
  have second := Coherent.insert 7 1 name 5 0 first
  have third := Coherent.insert 7 1 name 5 0 second
  have coherent : index.Coherent := Coherent.insert 8 1 name 5 0 third
  have found : index.arena[entry.record.id]? = some entry := by decide
  have leads : Leads index.arena index.newest[(7 : Pid)]? [3, 2, 1] :=
    .step rfl (.step rfl (.step rfl .done))
  have chain : IsChain index 7 [3, 2, 1] := by
    obtain ⟨ids, chain⟩ := coherent.chains 7
    exact chain.leads.deterministic leads ▸ chain
  have taken : removed.arena = index.arena.erase entry.record.id := rfl
  obtain ⟨-, remaining, others, -⟩ := unlink_anywhere coherent.chains found rfl taken rfl
  have elsewhere : (removed.unlink entry).newest[(8 : Pid)]? = some 4 :=
    (others 8 (by decide)).1.trans rfl
  exact ⟨coherent.chains, found, chain, (remaining [3] [1] chain).1, elsewhere⟩

end ProcessWatch.Index
