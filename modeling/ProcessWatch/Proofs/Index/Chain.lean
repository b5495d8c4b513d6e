/-
Module: ProcessWatch.Proofs.Index.Chain
Purpose: The chains of running records, and what taking an entry out of the index leaves of them.
Trusted boundary: none
Main exports: Entry.unlinked, Index.Runs, Index.Leads, Index.IsChain, Index.Unlinks, Index.Removed,
  Index.unlinks_cases, Index.Removed.isChain_unlink_erase
-/
import ProcessWatch.Index.Basic
import Mathlib.Data.List.Perm.Subperm

namespace ProcessWatch

/-- An entry without its link. -/
def Entry.unlinked (entry : Entry) : Entry := { entry with older := none }

namespace Index

/-- The entry with this number is a running one about process number `pid`. -/
def Runs (arena : Arena) (pid : Pid) (id : RecordId) : Prop :=
  ∃ entry, arena[id]? = some entry ∧ entry.record.pid = pid ∧ entry.record.isRunning = true

/-- The links from `head` visit the entries `ids`, in this order, and end there. -/
inductive Leads (arena : Arena) : Option RecordId → List RecordId → Prop where
  | done : Leads arena none []
  | step {id : RecordId} {entry : Entry} {ids : List RecordId}
      (found : arena[id]? = some entry) (rest : Leads arena entry.older ids) :
      Leads arena (some id) (id :: ids)

/-- The links from the newest running entry about `pid` visit exactly the running entries about
`pid`, each once, and later numbers before earlier ones. -/
structure IsChain (index : Index) (pid : Pid) (ids : List RecordId) : Prop where
  leads : Leads index.arena index.newest[pid]? ids
  descending : ids.Pairwise (· > ·)
  mem_iff : ∀ id, id ∈ ids ↔ Runs index.arena pid id

/-! ## Entries up to their links -/

/-- Entries that differ in their link only are about the same record. -/
theorem record_eq_of_unlinked {first second : Entry} (same : first.unlinked = second.unlinked) :
    first.record = second.record := by
  have record : first.unlinked.record = second.unlinked.record := by rw [same]
  exact record

theorem epoch_eq_of_unlinked {first second : Entry} (same : first.unlinked = second.unlinked) :
    first.epoch = second.epoch := by
  have epoch : first.unlinked.epoch = second.unlinked.epoch := by rw [same]
  exact epoch

theorem record_of_unlinked_eq {first second : Option Entry}
    (same : first.map Entry.unlinked = second.map Entry.unlinked) :
    first.map Entry.record = second.map Entry.record := by
  have noLink : (Entry.record ∘ Entry.unlinked) = Entry.record := rfl
  have mapped := congrArg (Option.map Entry.record) same
  rwa [Option.map_map, Option.map_map, noLink] at mapped

/-- Whether an entry runs does not depend on its link. -/
theorem runs_iff_map_record (arena : Arena) (pid : Pid) (id : RecordId) :
    Runs arena pid id ↔
      ∃ record, arena[id]?.map Entry.record = some record ∧ record.pid = pid ∧
        record.isRunning = true := by
  constructor
  · intro runs
    rcases runs with ⟨entry, found, about, running⟩
    exact ⟨entry.record, by rw [found]; rfl, about, running⟩
  · intro runs
    rcases runs with ⟨record, found, about, running⟩
    obtain ⟨entry, entryFound, rfl⟩ := Option.map_eq_some_iff.mp found
    exact ⟨entry, entryFound, about, running⟩

/-- Who runs depends on the records and not on the links. -/
theorem runs_congr {first second : Arena} {id : RecordId}
    (same : first[id]?.map Entry.record = second[id]?.map Entry.record) (pid : Pid) :
    Runs first pid id ↔ Runs second pid id := by
  rw [runs_iff_map_record, runs_iff_map_record, same]

/-- An entry runs for one process number only. -/
theorem Runs.pid_eq {arena : Arena} {first second : Pid} {id : RecordId}
    (one : Runs arena first id) (two : Runs arena second id) : first = second := by
  obtain ⟨entry, found, about, -⟩ := one
  obtain ⟨other, otherFound, otherAbout, -⟩ := two
  rw [found] at otherFound
  obtain rfl := Option.some.inj otherFound
  exact about.symm.trans otherAbout

/-! ## Following links -/

namespace Leads

/-- The head of a chain is its first number. -/
theorem head_eq {arena : Arena} {head : Option RecordId} {ids : List RecordId}
    (leads : Leads arena head ids) : head = ids.head? := by
  cases leads with
  | done => rfl
  | step found rest => rfl

/-- The first visited entry is where the links start, and its own link leads on. -/
theorem cons_inv {arena : Arena} {head : Option RecordId} {id : RecordId} {ids : List RecordId}
    (leads : Leads arena head (id :: ids)) :
    head = some id ∧ ∃ entry, arena[id]? = some entry ∧ Leads arena entry.older ids := by
  cases leads with
  | step found rest => exact ⟨rfl, _, found, rest⟩

/-- Links lead one way only. -/
theorem deterministic {arena : Arena} {head : Option RecordId} {first second : List RecordId}
    (one : Leads arena head first) (two : Leads arena head second) : first = second := by
  induction one generalizing second with
  | done =>
      cases two
      rfl
  | step found rest inductionHypothesis =>
      cases two with
      | step otherFound otherRest =>
          rw [found] at otherFound
          obtain rfl := Option.some.inj otherFound
          rw [inductionHypothesis otherRest]

/-- Only the visited entries matter. -/
theorem of_agree {first second : Arena} {head : Option RecordId} {ids : List RecordId}
    (leads : Leads first head ids) (agree : ∀ id ∈ ids, second[id]? = first[id]?) :
    Leads second head ids := by
  induction leads with
  | done => exact .done
  | step found rest inductionHypothesis =>
      refine .step ((agree _ (by simp)).trans found) (inductionHypothesis ?_)
      intro id member
      exact agree id (by simp [member])

/-- Every visited entry is there. -/
theorem mem_arena {arena : Arena} {head : Option RecordId} {ids : List RecordId}
    (leads : Leads arena head ids) : ∀ id ∈ ids, id ∈ arena := by
  induction leads with
  | done => simp
  | step found rest inductionHypothesis =>
      intro id member
      rcases List.mem_cons.mp member with rfl | later
      · exact Std.TreeMap.mem_iff_isSome_getElem?.mpr (by simp [found])
      · exact inductionHypothesis id later

/-- Letting the entry before `target` lead to what `target` leads to takes `target` out of the way
and keeps the rest of it. -/
theorem relink {first second : Arena} {head : Option RecordId} {before after : List RecordId}
    {last target : RecordId} {entry relinked : Entry}
    (leads : Leads first head (before ++ last :: target :: after))
    (found : first[target]? = some entry)
    (foundLast : second[last]? = some relinked) (older : relinked.older = entry.older)
    (agree : ∀ id ∈ before ++ after, second[id]? = first[id]?) :
    Leads second head (before ++ last :: after) := by
  induction before generalizing head with
  | nil =>
      obtain ⟨rfl, lastEntry, -, rest⟩ := leads.cons_inv
      obtain ⟨-, targetEntry, targetFound, tail⟩ := rest.cons_inv
      rw [found] at targetFound
      obtain rfl := Option.some.inj targetFound
      refine .step foundLast (older ▸ tail.of_agree ?_)
      exact fun id member => agree id (by simpa using member)
  | cons id before inductionHypothesis =>
      obtain ⟨rfl, idEntry, idFound, rest⟩ := leads.cons_inv
      refine .step ((agree id (by simp)).trans idFound) (inductionHypothesis rest ?_)
      intro other member
      exact agree other (by simpa using Or.inr (by simpa using member))

end Leads

/-! ## Leaving a chain -/

@[simp] theorem arena_setNewest (index : Index) (pid : Pid) (head : Option RecordId) :
    (index.setNewest pid head).arena = index.arena := by
  cases head <;> rfl

@[simp] theorem recency_setNewest (index : Index) (pid : Pid) (head : Option RecordId) :
    (index.setNewest pid head).recency = index.recency := by
  cases head <;> rfl

@[simp] theorem byStart_setNewest (index : Index) (pid : Pid) (head : Option RecordId) :
    (index.setNewest pid head).byStart = index.byStart := by
  cases head <;> rfl

@[simp] theorem nextId_setNewest (index : Index) (pid : Pid) (head : Option RecordId) :
    (index.setNewest pid head).nextId = index.nextId := by
  cases head <;> rfl

/-- A new head for one process number changes nothing about the others. -/
theorem newest_setNewest (index : Index) (pid other : Pid) (head : Option RecordId) :
    (index.setNewest pid head).newest[other]? =
      if pid = other then head else index.newest[other]? := by
  cases head <;>
    simp only [setNewest, Std.TreeMap.getElem?_insert, Std.TreeMap.getElem?_erase,
      Std.LawfulEqCmp.compare_eq_iff_eq]

/-- Unlinking leaves everything but the links and the newest entries alone. -/
theorem unlink_frame (index : Index) (entry : Entry) :
    (index.unlink entry).recency = index.recency ∧
      (index.unlink entry).byStart = index.byStart ∧
      (index.unlink entry).nextId = index.nextId := by
  rw [unlink]
  split
  · exact ⟨rfl, rfl, rfl⟩
  · split
    · simp
    · exact ⟨rfl, rfl, rfl⟩

/-- Different entries are at most as many as the arena is large. -/
theorem length_le_size {arena : Arena} {ids : List RecordId} (nodup : ids.Nodup)
    (held : ∀ id ∈ ids, id ∈ arena) : ids.length ≤ arena.size := by
  have included : ids ⊆ arena.keys := fun id member => Std.TreeMap.mem_keys.mpr (held id member)
  have bound := (List.subperm_of_subset nodup included).length_le
  rwa [Std.TreeMap.length_keys] at bound

/-- What stands first in a list with `last` in it stands no later than `last`. -/
private theorem exists_head (before : List RecordId) (last : RecordId) (later : List RecordId) :
    ∃ next ∈ before ++ [last], (before ++ last :: later).head? = some next := by
  cases before with
  | nil => exact ⟨last, by simp, rfl⟩
  | cons id before => exact ⟨id, by simp, rfl⟩

/-- A walk along the links from `cursor` ends after `looks` looks at the arena and leaves `result`.
Nothing but what the walk meets ends it, so that there is no `result` for links that lead round in a
circle past `target`. -/
inductive Passes (target : Entry) (arena : Arena) : Nat → RecordId → Arena → Prop where
  | missing {cursor : RecordId} (nothing : arena[cursor]? = none) : Passes target arena 1 cursor arena
  | last {cursor : RecordId} {entry : Entry} (found : arena[cursor]? = some entry)
      (ends : entry.older = none) : Passes target arena 1 cursor arena
  | before {cursor : RecordId} {entry : Entry} (found : arena[cursor]? = some entry)
      (linked : entry.older = some target.record.id) :
      Passes target arena 1 cursor (arena.insert cursor { entry with older := target.older })
  | onward {cursor older : RecordId} {entry : Entry} {looks : Nat} {result : Arena}
      (found : arena[cursor]? = some entry) (linked : entry.older = some older)
      (differs : older ≠ target.record.id) (rest : Passes target arena looks older result) :
      Passes target arena (looks + 1) cursor result

/-- A budget for all looks of a walk does not end it early. -/
theorem Passes.bypass_eq {target : Entry} {arena result : Arena} {looks budget : Nat}
    {cursor : RecordId} (passes : Passes target arena looks cursor result)
    (enough : looks ≤ budget) : bypass target budget cursor arena = result := by
  induction passes generalizing budget with
  | missing nothing =>
      obtain ⟨budget, rfl⟩ := Nat.exists_eq_add_of_le' enough
      simp only [bypass, nothing]
  | last found ends =>
      obtain ⟨budget, rfl⟩ := Nat.exists_eq_add_of_le' enough
      simp only [bypass, found, ends]
  | before found linked =>
      obtain ⟨budget, rfl⟩ := Nat.exists_eq_add_of_le' enough
      simp only [bypass, found, linked, if_true]
  | onward found linked differs rest inductionHypothesis =>
      obtain ⟨budget, rfl⟩ := Nat.exists_eq_add_of_le' (Nat.le_of_add_left_le enough)
      simp only [bypass, found, linked, differs, if_false]
      exact inductionHypothesis (Nat.le_of_succ_le_succ enough)

/-- The walk along a chain comes to the entry before `target` and changes only its link. -/
theorem exists_passes {arena full : Arena} {target : Entry}
    (agree : ∀ id, id ≠ target.record.id → arena[id]? = full[id]?)
    {before after : List RecordId} {cursor last : RecordId}
    (leads : Leads full (some cursor) (before ++ last :: target.record.id :: after))
    (absent : target.record.id ∉ before ++ [last]) :
    ∃ entry, full[last]? = some entry ∧ entry.older = some target.record.id ∧
      Passes target arena (before.length + 1) cursor
        (arena.insert last { entry with older := target.older }) := by
  induction before generalizing cursor with
  | nil =>
      obtain ⟨same, entry, found, rest⟩ := leads.cons_inv
      obtain rfl := Option.some.inj same
      obtain ⟨linked, -⟩ := rest.cons_inv
      have differs : cursor ≠ target.record.id := by
        rintro rfl
        simp at absent
      exact ⟨entry, found, linked, .before ((agree cursor differs).trans found) linked⟩
  | cons id before inductionHypothesis =>
      rw [List.cons_append] at leads
      obtain ⟨same, entry, found, rest⟩ := leads.cons_inv
      obtain rfl := Option.some.inj same
      simp only [List.cons_append, List.mem_cons, not_or] at absent
      obtain ⟨next, nextMember, nextFirst⟩ :=
        exists_head before last (target.record.id :: after)
      have linked : entry.older = some next := rest.head_eq.trans nextFirst
      have nextDiffers : next ≠ target.record.id := by
        rintro rfl
        exact absent.2 nextMember
      obtain ⟨lastEntry, lastFound, lastLinked, passes⟩ :=
        inductionHypothesis (linked ▸ rest) absent.2
      exact ⟨lastEntry, lastFound, lastLinked,
        .onward ((agree cursor (Ne.symm absent.1)).trans found) linked nextDiffers passes⟩

/-- Unlinking an entry comes to an end and leaves `result`.  If it has to walk, it looks at most as
often as there are entries. -/
inductive Unlinks (index : Index) (entry : Entry) : Index → Prop where
  | unchained (nothing : index.newest[entry.record.pid]? = none) : Unlinks index entry index
  | newest (first : index.newest[entry.record.pid]? = some entry.record.id) :
      Unlinks index entry (index.setNewest entry.record.pid entry.older)
  | older {head : RecordId} {looks : Nat} {arena : Arena}
      (first : index.newest[entry.record.pid]? = some head) (differs : head ≠ entry.record.id)
      (passes : Passes entry index.arena looks head arena) (few : looks ≤ index.arena.size) :
      Unlinks index entry { index with arena := arena }

/-- An entry is unlinked in one way only, and this is what the index does. -/
theorem Unlinks.unlink_eq {index result : Index} {entry : Entry}
    (unlinks : Unlinks index entry result) : index.unlink entry = result := by
  cases unlinks with
  | unchained nothing => simp only [unlink, nothing]
  | newest first => simp only [unlink, first, if_true]
  | older first differs passes few =>
      simp only [unlink, first, differs, if_false, passes.bypass_eq few]

/-- The conditions under which an entry is unlinked: it belongs to a chain and has just left the
arena. -/
structure Removed (index removed : Index) (entry : Entry) (ids : List RecordId) : Prop where
  chain : IsChain index entry.record.pid ids
  found : index.arena[entry.record.id]? = some entry
  running : entry.record.isRunning = true
  arena : removed.arena = index.arena.erase entry.record.id
  newest : removed.newest = index.newest

namespace Removed

variable {index removed : Index} {entry : Entry} {ids before after : List RecordId}
  {last : RecordId}

theorem nodup (conditions : Removed index removed entry ids) : ids.Nodup :=
  conditions.chain.descending.imp Nat.ne_of_gt

theorem member (conditions : Removed index removed entry ids) : entry.record.id ∈ ids :=
  (conditions.chain.mem_iff _).mpr ⟨entry, conditions.found, rfl, conditions.running⟩

/-- Of a removal from the arena only the removed entry is missing. -/
theorem find? (conditions : Removed index removed entry ids) (id : RecordId) :
    removed.arena[id]? = if entry.record.id = id then none else index.arena[id]? := by
  simp only [conditions.arena, Std.TreeMap.getElem?_erase, Std.LawfulEqCmp.compare_eq_iff_eq]

/-- The entries before the removed one are other ones. -/
theorem absent (conditions : Removed index removed entry ids)
    (split : ids = before ++ last :: entry.record.id :: after) :
    entry.record.id ∉ before ++ [last] := by
  have regrouped : before ++ last :: entry.record.id :: after =
      (before ++ [last]) ++ entry.record.id :: after := by simp
  have nodup := conditions.nodup
  rw [split, regrouped, List.nodup_append] at nodup
  intro inside
  exact nodup.2.2 _ inside _ List.mem_cons_self rfl

/-- The walk along the chain has budget enough to come to the entry before the removed one. -/
theorem length_lt_size (conditions : Removed index removed entry ids)
    (split : ids = before ++ last :: entry.record.id :: after) :
    before.length < removed.arena.size := by
  have distinct : (before ++ [last]).Nodup := by
    have nodup := conditions.nodup
    rw [split] at nodup
    exact nodup.sublist (by simp)
  have held : ∀ id ∈ before ++ [last], id ∈ removed.arena := by
    intro id inside
    have onChain : id ∈ ids := by
      rw [split]
      rcases List.mem_append.mp inside with early | late
      · exact List.mem_append_left _ early
      · rw [List.mem_singleton.mp late]
        simp
    have there := conditions.chain.leads.mem_arena id onChain
    have differs : entry.record.id ≠ id := fun same => conditions.absent split (same ▸ inside)
    rw [conditions.arena, Std.TreeMap.mem_erase]
    exact ⟨by simpa using differs, there⟩
  have bound := length_le_size distinct held
  rwa [List.length_append, List.length_singleton] at bound

end Removed

/-- Unlinking an entry that has just left the arena comes to an end: the entry was either the newest
one of its chain, and the next one becomes the newest, or the entry before it gets its link. -/
theorem unlinks_cases {index removed : Index} {entry : Entry} {ids : List RecordId}
    (conditions : Removed index removed entry ids) :
    (∃ rest, ids = entry.record.id :: rest ∧
        Unlinks removed entry (removed.setNewest entry.record.pid entry.older)) ∨
      ∃ before last lastEntry after,
        ids = before ++ last :: entry.record.id :: after ∧
          entry.record.id ∉ before ++ [last] ∧
          index.arena[last]? = some lastEntry ∧
          lastEntry.older = some entry.record.id ∧
          Unlinks removed entry
            { removed with
              arena := removed.arena.insert last { lastEntry with older := entry.older } } := by
  obtain ⟨front, after, split⟩ := List.append_of_mem conditions.member
  have leads := conditions.chain.leads
  rcases List.eq_nil_or_concat front with rfl | ⟨before, last, rfl⟩
  · have newest := leads.head_eq
    rw [split, List.nil_append, List.head?_cons, ← conditions.newest] at newest
    exact Or.inl ⟨after, split, .newest newest⟩
  · rw [List.concat_eq_append, List.append_assoc, List.singleton_append] at split
    have absent := conditions.absent split
    obtain ⟨head, headMember, headFirst⟩ := exists_head before last (entry.record.id :: after)
    have newest := leads.head_eq
    rw [split, headFirst] at newest
    rw [newest, split] at leads
    have headDiffers : head ≠ entry.record.id := by
      intro same
      exact absent (same ▸ headMember)
    have agree : ∀ id, id ≠ entry.record.id → removed.arena[id]? = index.arena[id]? := by
      intro id differs
      rw [conditions.find?, if_neg (Ne.symm differs)]
    obtain ⟨lastEntry, lastFound, linked, passes⟩ := exists_passes agree leads absent
    refine Or.inr ⟨before, last, lastEntry, after, split, absent, lastFound, linked, ?_⟩
    exact .older (conditions.newest ▸ newest) headDiffers passes (conditions.length_lt_size split)

/-- What unlinking an entry does that has just left the arena. -/
theorem unlink_cases {index removed : Index} {entry : Entry} {ids : List RecordId}
    (conditions : Removed index removed entry ids) :
    (∃ rest, ids = entry.record.id :: rest ∧
        removed.unlink entry = removed.setNewest entry.record.pid entry.older) ∨
      ∃ before last lastEntry after,
        ids = before ++ last :: entry.record.id :: after ∧
          entry.record.id ∉ before ++ [last] ∧
          index.arena[last]? = some lastEntry ∧
          lastEntry.older = some entry.record.id ∧
          removed.unlink entry =
            { removed with
              arena := removed.arena.insert last { lastEntry with older := entry.older } } := by
  rcases unlinks_cases conditions with ⟨rest, split, unlinks⟩ |
    ⟨before, last, lastEntry, after, split, absent, lastFound, linked, unlinks⟩
  · exact Or.inl ⟨rest, split, unlinks.unlink_eq⟩
  · exact Or.inr ⟨before, last, lastEntry, after, split, absent, lastFound, linked,
      unlinks.unlink_eq⟩

namespace Removed

variable {index removed : Index} {entry : Entry} {ids : List RecordId}

/-- Unlinking changes links only. -/
theorem find?_unlink (conditions : Removed index removed entry ids) (id : RecordId) :
    (removed.unlink entry).arena[id]?.map Entry.unlinked =
      removed.arena[id]?.map Entry.unlinked := by
  rcases unlink_cases conditions with ⟨rest, -, unlinked⟩ |
    ⟨before, last, lastEntry, after, -, absent, lastFound, -, unlinked⟩
  · rw [unlinked, arena_setNewest]
  · rw [unlinked, Std.TreeMap.getElem?_insert, conditions.find? id]
    by_cases here : last = id
    · subst here
      have differs : entry.record.id ≠ last := by
        rintro same
        simp [same] at absent
      simp [differs, lastFound, Entry.unlinked]
    · simp [here]

/-- The link that changes belongs to a running entry. -/
theorem find?_unlink_of_stopped (conditions : Removed index removed entry ids) {id : RecordId}
    {other : Entry} (found : (removed.unlink entry).arena[id]? = some other)
    (stopped : other.record.isRunning = false) : removed.arena[id]? = some other := by
  rcases unlink_cases conditions with ⟨rest, -, unlinked⟩ |
    ⟨before, last, lastEntry, after, split, -, lastFound, -, unlinked⟩
  · rwa [unlinked, arena_setNewest] at found
  · simp only [unlinked, Std.TreeMap.getElem?_insert, Std.LawfulEqCmp.compare_eq_iff_eq] at found
    by_cases here : last = id
    · rw [if_pos here] at found
      obtain rfl := Option.some.inj found
      have member : last ∈ ids := by simp [split]
      obtain ⟨running, runningFound, -, runs⟩ := (conditions.chain.mem_iff last).mp member
      rw [lastFound] at runningFound
      obtain rfl := Option.some.inj runningFound
      simp [runs] at stopped
    · rwa [if_neg here] at found

/-- Besides the removed entry every one still runs that ran before. -/
theorem runs_unlink (conditions : Removed index removed entry ids) (pid : Pid) (id : RecordId) :
    Runs (removed.unlink entry).arena pid id ↔
      id ≠ entry.record.id ∧ Runs index.arena pid id := by
  rw [runs_congr (record_of_unlinked_eq (conditions.find?_unlink id))]
  by_cases here : entry.record.id = id
  · subst here
    simp [Runs, conditions.find?]
  · simp [Runs, conditions.find?, here, Ne.symm here]

/-- The chain that the removed entry belongs to loses this entry and no other. -/
theorem isChain_unlink (conditions : Removed index removed entry ids) :
    IsChain (removed.unlink entry) entry.record.pid (ids.erase entry.record.id) := by
  have nodup := conditions.nodup
  refine ⟨?_, conditions.chain.descending.sublist List.erase_sublist, ?_⟩
  · have leads := conditions.chain.leads
    rcases unlink_cases conditions with ⟨rest, rfl, unlinked⟩ |
      ⟨before, last, lastEntry, after, rfl, absent, lastFound, -, unlinked⟩
    · obtain ⟨-, found, foundEq, restLeads⟩ := leads.cons_inv
      rw [conditions.found] at foundEq
      obtain rfl := Option.some.inj foundEq
      rw [unlinked, newest_setNewest, if_pos rfl, arena_setNewest, List.erase_cons_head]
      apply restLeads.of_agree
      intro id member
      have differs : entry.record.id ≠ id := fun same =>
        (List.nodup_cons.mp nodup).1 (same ▸ member)
      rw [conditions.find?, if_neg differs]
    · have split : before ++ last :: entry.record.id :: after =
          (before ++ [last]) ++ entry.record.id :: after := by simp
      have remaining : (before ++ last :: entry.record.id :: after).erase entry.record.id =
          before ++ last :: after := by
        rw [split, List.erase_append_right _ absent, List.erase_cons_head, List.append_assoc]
        rfl
      rw [remaining, unlinked, conditions.newest]
      refine leads.relink conditions.found Std.TreeMap.getElem?_insert_self rfl ?_
      intro id member
      have differs : last ≠ id ∧ entry.record.id ≠ id := by
        simp only [List.nodup_append, List.nodup_cons, List.mem_cons, List.mem_append] at nodup member
        grind
      simp only [Std.TreeMap.getElem?_insert, Std.LawfulEqCmp.compare_eq_iff_eq, differs.1,
        if_false, conditions.find?, differs.2]
  · intro id
    rw [nodup.mem_erase_iff, conditions.runs_unlink, conditions.chain.mem_iff]

/-- The chains of other process numbers stay as they are. -/
theorem isChain_unlink_other (conditions : Removed index removed entry ids) {pid : Pid}
    {others : List RecordId} (differs : pid ≠ entry.record.pid)
    (chain : IsChain index pid others) : IsChain (removed.unlink entry) pid others := by
  have absent : ∀ id ∈ others, id ∉ ids := by
    intro id member inside
    exact differs (((chain.mem_iff id).mp member).pid_eq
      ((conditions.chain.mem_iff id).mp inside))
  have target := conditions.member
  refine ⟨?_, chain.descending, ?_⟩
  · have leads := chain.leads
    rcases unlink_cases conditions with ⟨rest, rfl, unlinked⟩ |
      ⟨before, last, lastEntry, after, rfl, -, -, -, unlinked⟩
    · rw [unlinked, newest_setNewest, if_neg (Ne.symm differs), conditions.newest, arena_setNewest]
      apply leads.of_agree
      intro id member
      have elsewhere : entry.record.id ≠ id := fun same => absent id member (same ▸ target)
      rw [conditions.find?, if_neg elsewhere]
    · rw [unlinked, conditions.newest]
      apply leads.of_agree
      intro id member
      have elsewhere := absent id member
      simp only [List.mem_append, List.mem_cons, not_or] at elsewhere
      simp only [Std.TreeMap.getElem?_insert, Std.LawfulEqCmp.compare_eq_iff_eq,
        Ne.symm elsewhere.2.1, if_false, conditions.find?, Ne.symm elsewhere.2.2.1]
  · intro id
    rw [conditions.runs_unlink, chain.mem_iff]
    constructor
    · intro runs
      exact ⟨fun same => absent id ((chain.mem_iff id).mpr runs) (same ▸ target), runs⟩
    · exact And.right

/-- Every chain loses the removed entry, if it has it. -/
theorem isChain_unlink_erase (conditions : Removed index removed entry ids) {pid : Pid}
    {others : List RecordId} (chain : IsChain index pid others) :
    IsChain (removed.unlink entry) pid (others.erase entry.record.id) := by
  by_cases same : pid = entry.record.pid
  · subst same
    rw [chain.leads.deterministic conditions.chain.leads]
    exact conditions.isChain_unlink
  · have runs : Runs index.arena entry.record.pid entry.record.id :=
      ⟨entry, conditions.found, rfl, conditions.running⟩
    have absent : entry.record.id ∉ others := by
      intro member
      exact same (((chain.mem_iff _).mp member).pid_eq runs)
    rw [List.erase_of_not_mem absent]
    exact conditions.isChain_unlink_other same chain

end Removed

end Index

end ProcessWatch
