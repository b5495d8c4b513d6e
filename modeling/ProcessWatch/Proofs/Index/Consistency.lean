/-
Module: ProcessWatch.Proofs.Index.Consistency
Purpose: The consistency check accepts exactly the indexes whose ways to reach their records agree.
Trusted boundary: none
Main exports: Index.ViewsAgree, Index.ViewsAgree.isConsistent, Index.viewsAgree_of_isConsistent,
  Index.Coherent.viewsAgree

The check compares sizes and looks up single entries.  That it misses nothing is a matter of counting:
different entries on the one side, as many as there are on the other, are all of them.
-/
import ProcessWatch.Index.Consistency
import ProcessWatch.Proofs.Index.Coherence
import Mathlib.Data.List.Nodup

namespace ProcessWatch.Index

/-- All ways to reach the records lead to the same ones, whatever the numbers of the records. -/
structure ViewsAgree (index : Index) : Prop where
  ascending : (0 :: index.recency).Pairwise (· < ·)
  held : ∀ id, id ∈ index.arena ↔ id ∈ index.recency
  starts : ∀ key : StartKey, key ∈ index.byStart ↔
    ∃ entry, index.arena[key.id]? = some entry ∧ entry.record.startedAt = key.startedAt
  chains : ∀ pid, ∃ ids, Leads index.arena index.newest[pid]? ids ∧ ids.Nodup ∧
    ∀ id, id ∈ ids ↔ Runs index.arena pid id

/-- In a coherent index all ways to reach the records lead to the same ones. -/
theorem Coherent.viewsAgree {index : Index} (coherent : index.Coherent) : index.ViewsAgree where
  ascending := by
    refine List.pairwise_cons.mpr ⟨?_, coherent.ascending⟩
    intro id member
    have first := ((coherent.mem_recency_iff id).mp member).1
    exact Nat.lt_of_lt_of_le (Nat.sub_pos_of_lt coherent.size_lt) first
  held := coherent.held
  starts := coherent.starts
  chains := by
    intro pid
    obtain ⟨ids, chain⟩ := coherent.chains pid
    exact ⟨ids, chain.leads, chain.descending.imp Nat.ne_of_gt, chain.mem_iff⟩

/-! ## The arena against the other ways -/

/-- What the check goes through are the entries, each with its number. -/
theorem values_eq_map_toList (arena : Arena) : arena.values = arena.toList.map Prod.snd := by
  have folded : arena.values = arena.foldr (fun _ entry entries => entry :: entries) [] := rfl
  rw [folded, Std.TreeMap.foldr_eq_foldr_toList]
  induction arena.toList with
  | nil => rfl
  | cons first rest inductionHypothesis => simp [inductionHypothesis]

/-- The numbers of all running entries. -/
def runningIds (arena : Arena) : List RecordId :=
  (arena.toList.filter fun (_, entry) => entry.record.isRunning).map Prod.fst

/-- The check counts the numbers of running records. -/
theorem length_runningIds (arena : Arena) : (runningIds arena).length = runningCount arena := by
  rw [runningIds, runningCount, values_eq_map_toList, List.countP_map, List.countP_eq_length_filter,
    List.length_map]
  rfl

/-- No running record is counted twice. -/
theorem nodup_runningIds (arena : Arena) : (runningIds arena).Nodup := by
  have sublist : (runningIds arena).Sublist (arena.toList.map Prod.fst) :=
    List.filter_sublist.map Prod.fst
  rw [Std.TreeMap.map_fst_toList_eq_keys] at sublist
  exact Std.TreeMap.nodup_keys.sublist sublist

theorem mem_runningIds {arena : Arena} {id : RecordId} :
    id ∈ runningIds arena ↔ ∃ pid, Runs arena pid id := by
  simp only [runningIds, List.mem_map, List.mem_filter, Prod.exists,
    Std.TreeMap.mem_toList_iff_getElem?_eq_some, Runs]
  constructor
  · intro listed
    rcases listed with ⟨key, entry, ⟨found, running⟩, rfl⟩
    exact ⟨entry.record.pid, entry, found, rfl, running⟩
  · intro runs
    rcases runs with ⟨pid, entry, found, -, running⟩
    exact ⟨id, entry, ⟨found, running⟩, rfl⟩

/-- The places of all entries in the order of starts. -/
def startKeys (arena : Arena) : List StartKey :=
  arena.toList.map fun (id, entry) => ⟨entry.record.startedAt, id⟩

/-- There are as many start keys as entries, since each entry has its own. -/
theorem length_startKeys (arena : Arena) : (startKeys arena).length = arena.size := by
  rw [startKeys, List.length_map, Std.TreeMap.length_toList]

theorem nodup_startKeys (arena : Arena) : (startKeys arena).Nodup := by
  have distinct : (arena.toList.map Prod.fst).Nodup := by
    rw [Std.TreeMap.map_fst_toList_eq_keys]
    exact Std.TreeMap.nodup_keys
  have ids : (startKeys arena).map StartKey.id = arena.toList.map Prod.fst := by
    rw [startKeys, List.map_map]
    rfl
  exact List.Nodup.of_map StartKey.id (ids ▸ distinct)

theorem mem_startKeys {arena : Arena} {key : StartKey} :
    key ∈ startKeys arena ↔
      ∃ entry, arena[key.id]? = some entry ∧ entry.record.startedAt = key.startedAt := by
  rw [startKeys, List.mem_map]
  constructor
  · intro listed
    rcases listed with ⟨⟨id, entry⟩, member, rfl⟩
    exact ⟨entry, Std.TreeMap.mem_toList_iff_getElem?_eq_some.mp member, rfl⟩
  · intro starts
    rcases starts with ⟨entry, found, startedAt⟩
    refine ⟨(key.id, entry), Std.TreeMap.mem_toList_iff_getElem?_eq_some.mpr found, ?_⟩
    simp only [startedAt]

/-- The start order has no key twice. -/
theorem nodup_byStart (index : Index) : index.byStart.toList.Nodup :=
  Std.TreeSet.distinct_toList.imp Std.ReflCmp.ne_of_cmp_ne_eq

/-! ## The walk along the chains -/

/-- A walk along a chain takes one from the budget for each of its entries. -/
theorem walkChain_eq {arena : Arena} {pid : Pid} {head : Option RecordId} {ids : List RecordId}
    (leads : Leads arena head ids) (runs : ∀ id ∈ ids, Runs arena pid id) {budget : Nat}
    (enough : ids.length ≤ budget) :
    walkChain arena pid budget head = some (budget - ids.length) := by
  induction leads generalizing budget with
  | done => cases budget <;> rfl
  | step found rest inductionHypothesis =>
      obtain ⟨entry, entryFound, about, running⟩ := runs _ List.mem_cons_self
      rw [found] at entryFound
      obtain rfl := Option.some.inj entryFound
      cases budget with
      | zero => exact absurd enough (Nat.not_succ_le_zero _)
      | succ budget =>
          have later := inductionHypothesis (fun id member => runs id (List.mem_cons_of_mem _ member))
            (Nat.le_of_succ_le_succ enough)
          simp only [walkChain, found, about, running, and_self, if_true, later, List.length_cons,
            Nat.add_sub_add_right]

/-- The chains are walked one after the other, and each takes from what the others have left. -/
theorem walkChains_cons (arena : Arena) (budget : Nat) (first : Pid × RecordId)
    (heads : List (Pid × RecordId)) :
    walkChains arena budget (first :: heads) =
      (walkChain arena first.1 budget (some first.2)).bind fun left =>
        walkChains arena left heads := rfl

/-- Walks along sound chains end with what the budget was more than their length. -/
theorem walkChains_eq {arena : Arena} {heads : List (Pid × RecordId)} {chain : Pid → List RecordId}
    (leads : ∀ pid head, (pid, head) ∈ heads → Leads arena (some head) (chain pid))
    (runs : ∀ pid, ∀ id ∈ chain pid, Runs arena pid id) {budget : Nat}
    (enough : (heads.flatMap fun head => chain head.1).length ≤ budget) :
    walkChains arena budget heads =
      some (budget - (heads.flatMap fun head => chain head.1).length) := by
  induction heads generalizing budget with
  | nil => rfl
  | cons first heads inductionHypothesis =>
      obtain ⟨pid, head⟩ := first
      simp only [List.flatMap_cons, List.length_append] at enough ⊢
      have walked := walkChain_eq (leads pid head List.mem_cons_self) (runs pid)
        (Nat.le_of_add_right_le enough)
      have others := inductionHypothesis
        (fun pid head member => leads pid head (List.mem_cons_of_mem _ member))
        (Nat.le_sub_of_add_le (Nat.add_comm _ _ ▸ enough))
      rw [walkChains_cons, walked, Option.bind_some, others, Nat.sub_sub]

/-- No entry is on two chains. -/
theorem nodup_flatMap_chains {index : Index} {chain : Pid → List RecordId}
    (nodup : ∀ pid, (chain pid).Nodup) (runs : ∀ pid, ∀ id ∈ chain pid, Runs index.arena pid id) :
    (index.newest.toList.flatMap fun head => chain head.1).Nodup := by
  refine List.nodup_flatMap.mpr ⟨fun head _ => nodup head.1, ?_⟩
  apply Std.TreeMap.distinct_keys_toList.imp
  intro first second differs id one two
  have same := (runs _ id one).pid_eq (runs _ id two)
  exact differs (by simp [same])

namespace ViewsAgree

variable {index : Index}

/-- The arena holds as many entries as there are numbers in the recency. -/
theorem size_arena (agree : index.ViewsAgree) : index.arena.size = index.recency.length := by
  have nodup : index.recency.Nodup :=
    (List.pairwise_cons.mp agree.ascending).2.imp Nat.ne_of_lt
  have perm : index.arena.keys.Perm index.recency :=
    (List.perm_ext_iff_of_nodup Std.TreeMap.nodup_keys nodup).mpr fun id => by
      rw [Std.TreeMap.mem_keys, agree.held]
  rw [← Std.TreeMap.length_keys, perm.length_eq]

/-- The start order holds one key for each entry. -/
theorem size_byStart (agree : index.ViewsAgree) : index.arena.size = index.byStart.size := by
  have perm : (startKeys index.arena).Perm index.byStart.toList := by
    apply (List.perm_ext_iff_of_nodup (nodup_startKeys _) (nodup_byStart _)).mpr
    intro key
    rw [Std.TreeSet.mem_toList, agree.starts, mem_startKeys]
  rw [← length_startKeys, ← Std.TreeSet.length_toList, perm.length_eq]

/-- Numbers in ascending order that are all held pass the check of the recency. -/
theorem isAscending_of_pairwise {arena : Arena} {previous : RecordId} {ids : List RecordId}
    (ascending : (previous :: ids).Pairwise (· < ·)) (held : ∀ id ∈ ids, id ∈ arena) :
    isAscending arena previous ids = true := by
  induction ids generalizing previous with
  | nil => rfl
  | cons id ids inductionHypothesis =>
      obtain ⟨above, later⟩ := List.pairwise_cons.mp ascending
      have there : arena.contains id = true := Std.TreeMap.contains_iff_mem.mpr (held id (by simp))
      have rest := inductionHypothesis later (fun other member => held other (by simp [member]))
      simp [isAscending, above id (by simp), there, rest]

/-- In an index whose views agree each start key leads to its entry. -/
theorem all_isStartOf (agree : index.ViewsAgree) :
    index.byStart.toList.all (isStartOf index.arena) = true := by
  apply List.all_eq_true.mpr
  intro key member
  obtain ⟨entry, found, startedAt⟩ := (agree.starts key).mp (Std.TreeSet.mem_toList.mp member)
  simp [isStartOf, found, startedAt]

/-- The chains hold the running entries, each of them once. -/
theorem exists_chains (agree : index.ViewsAgree) :
    ∃ chain : Pid → List RecordId,
      (∀ pid head, (pid, head) ∈ index.newest.toList →
        Leads index.arena (some head) (chain pid)) ∧
      (∀ pid, ∀ id ∈ chain pid, Runs index.arena pid id) ∧
      (index.newest.toList.flatMap fun head => chain head.1).Perm (runningIds index.arena) := by
  choose chain leads nodup member using agree.chains
  refine ⟨chain, ?_, fun pid id => (member pid id).mp, ?_⟩
  · intro pid head inside
    exact Std.TreeMap.mem_toList_iff_getElem?_eq_some.mp inside ▸ leads pid
  · have distinct := nodup_flatMap_chains nodup fun pid id => (member pid id).mp
    refine (List.perm_ext_iff_of_nodup distinct (nodup_runningIds _)).mpr ?_
    intro id
    rw [mem_runningIds, List.mem_flatMap]
    constructor
    · intro inside
      rcases inside with ⟨⟨pid, head⟩, -, onChain⟩
      exact ⟨pid, (member pid id).mp onChain⟩
    · intro runsSomewhere
      rcases runsSomewhere with ⟨pid, runs⟩
      have inside := (member pid id).mpr runs
      obtain ⟨head, newest⟩ : ∃ head, index.newest[pid]? = some head := by
        rw [(leads pid).head_eq]
        exact Option.isSome_iff_exists.mp (by simpa using List.ne_nil_of_mem inside)
      exact ⟨(pid, head), Std.TreeMap.mem_toList_iff_getElem?_eq_some.mpr newest, inside⟩

/-- The check finds nothing wrong. -/
theorem isConsistent (agree : index.ViewsAgree) : index.isConsistent = true := by
  obtain ⟨chain, leads, runs, perm⟩ := agree.exists_chains
  have count := perm.length_eq.trans (length_runningIds index.arena)
  have enough : (index.newest.toList.flatMap fun head => chain head.1).length ≤
      index.arena.size := by
    apply length_le_size (perm.nodup_iff.mpr (nodup_runningIds _))
    intro id member
    obtain ⟨pid, entry, found, -⟩ := mem_runningIds.mp (perm.mem_iff.mp member)
    exact Std.TreeMap.mem_iff_isSome_getElem?.mpr (by simp [found])
  have walked := walkChains_eq leads runs enough
  have ascending := isAscending_of_pairwise agree.ascending (fun id => (agree.held id).mpr)
  rw [count] at walked enough
  simp [Index.isConsistent, walked, ascending, agree.all_isStartOf, ← agree.size_arena,
    ← agree.size_byStart, Nat.sub_sub_self enough]

end ViewsAgree

/-! ## What the check finds out -/

/-- From any entry on the way the links lead to the same end. -/
theorem Leads.of_append {arena : Arena} {head : Option RecordId} {front back : List RecordId}
    {id : RecordId} (leads : Leads arena head (front ++ id :: back)) :
    Leads arena (some id) (id :: back) := by
  induction front generalizing head with
  | nil => exact leads.cons_inv.1 ▸ leads
  | cons first front inductionHypothesis =>
      obtain ⟨-, entry, -, rest⟩ := leads.cons_inv
      exact inductionHypothesis rest

/-- Links that come to an end visit no entry twice: from its second visit on they would lead the same
way as from the first. -/
theorem Leads.nodup {arena : Arena} {head : Option RecordId} {ids : List RecordId}
    (leads : Leads arena head ids) : ids.Nodup := by
  induction leads with
  | done => exact List.nodup_nil
  | @step id entry ids found rest inductionHypothesis =>
      refine List.nodup_cons.mpr ⟨fun again => ?_, inductionHypothesis⟩
      obtain ⟨front, back, rfl⟩ := List.append_of_mem again
      have same := congrArg List.length ((Leads.step found rest).deterministic rest.of_append)
      simp only [List.length_cons, List.length_append] at same
      omega

/-- A walk that comes to the end of its chain has counted the entries on it. -/
theorem leads_of_walkChain {arena : Arena} {pid : Pid} {budget left : Nat} {head : Option RecordId}
    (walked : walkChain arena pid budget head = some left) :
    ∃ ids, Leads arena head ids ∧ (∀ id ∈ ids, Runs arena pid id) ∧ budget = left + ids.length := by
  induction budget generalizing head with
  | zero =>
      cases head with
      | none =>
          obtain rfl := Option.some.inj walked
          exact ⟨[], .done, by simp, rfl⟩
      | some id => cases walked
  | succ budget inductionHypothesis =>
      cases head with
      | none =>
          obtain rfl := Option.some.inj walked
          exact ⟨[], .done, by simp, rfl⟩
      | some id =>
          cases found : arena[id]? with
          | none => simp [walkChain, found] at walked
          | some entry =>
              simp only [walkChain, found, Option.ite_none_right_eq_some] at walked
              obtain ⟨⟨about, running⟩, later⟩ := walked
              obtain ⟨ids, leads, runs, sum⟩ := inductionHypothesis later
              refine ⟨id :: ids, .step found leads, ?_, by rw [sum, List.length_cons, Nat.add_assoc]⟩
              exact List.forall_mem_cons.mpr ⟨⟨entry, found, about, running⟩, runs⟩

/-- A walk comes to its end exactly if the chain does, is one of running entries about its process
number, and is not longer than the budget. -/
theorem walkChain_eq_some_iff {arena : Arena} {pid : Pid} {budget left : Nat}
    {head : Option RecordId} :
    walkChain arena pid budget head = some left ↔
      ∃ ids, Leads arena head ids ∧ (∀ id ∈ ids, Runs arena pid id) ∧ budget = left + ids.length := by
  constructor
  · exact leads_of_walkChain
  · rintro ⟨ids, leads, runs, rfl⟩
    rw [walkChain_eq leads runs (Nat.le_add_left _ _), Nat.add_sub_cancel]

/-- A walk along all chains that ends shows each of them to be sound. -/
theorem leads_of_walkChains {arena : Arena} {heads : List (Pid × RecordId)} {budget left : Nat}
    (walked : walkChains arena budget heads = some left) :
    ∀ pid head, (pid, head) ∈ heads →
      ∃ ids, Leads arena (some head) ids ∧ ∀ id ∈ ids, Runs arena pid id := by
  induction heads generalizing budget with
  | nil => exact fun pid head member => absurd member List.not_mem_nil
  | cons first heads inductionHypothesis =>
      rw [walkChains_cons, Option.bind_eq_some_iff] at walked
      obtain ⟨middle, here, later⟩ := walked
      obtain ⟨ids, leads, runs, -⟩ := leads_of_walkChain here
      intro pid head member
      rcases List.mem_cons.mp member with rfl | behind
      · exact ⟨ids, leads, runs⟩
      · exact inductionHypothesis later pid head behind

/-- The walk along all chains has counted the entries on all of them. -/
theorem length_of_walkChains {arena : Arena} {heads : List (Pid × RecordId)} {budget left : Nat}
    {chain : Pid → List RecordId} (walked : walkChains arena budget heads = some left)
    (leads : ∀ pid head, (pid, head) ∈ heads → Leads arena (some head) (chain pid)) :
    budget = left + (heads.flatMap fun head => chain head.1).length := by
  induction heads generalizing budget with
  | nil => exact Option.some.inj walked
  | cons first heads inductionHypothesis =>
      rw [walkChains_cons, Option.bind_eq_some_iff] at walked
      obtain ⟨middle, here, later⟩ := walked
      obtain ⟨ids, found, -, sum⟩ := leads_of_walkChain here
      have same := found.deterministic (leads first.1 first.2 List.mem_cons_self)
      have rest := inductionHypothesis later fun pid head member =>
        leads pid head (List.mem_cons_of_mem _ member)
      rw [sum, rest, same, List.flatMap_cons, List.length_append, Nat.add_assoc,
        Nat.add_comm (chain first.1).length]

/-- What passes the check of the recency ascends and is held. -/
theorem pairwise_of_isAscending {arena : Arena} {previous : RecordId} {ids : List RecordId}
    (ascending : isAscending arena previous ids = true) :
    (previous :: ids).Pairwise (· < ·) ∧ ∀ id ∈ ids, id ∈ arena := by
  induction ids generalizing previous with
  | nil => exact ⟨List.pairwise_singleton _ _, by simp⟩
  | cons id ids inductionHypothesis =>
      simp only [isAscending, Bool.and_eq_true, decide_eq_true_eq] at ascending
      obtain ⟨⟨above, there⟩, later⟩ := ascending
      obtain ⟨pairwise, held⟩ := inductionHypothesis later
      have first := (List.pairwise_cons.mp pairwise).1
      refine ⟨List.pairwise_cons.mpr ⟨?_, pairwise⟩, List.forall_mem_cons.mpr ⟨there, held⟩⟩
      exact List.forall_mem_cons.mpr ⟨above, fun other member => Nat.lt_trans above (first other member)⟩

/-- A start key that passes the check belongs to an entry. -/
theorem exists_of_isStartOf {arena : Arena} {key : StartKey} (found : isStartOf arena key = true) :
    ∃ entry, arena[key.id]? = some entry ∧ entry.record.startedAt = key.startedAt := by
  rw [isStartOf] at found
  split at found
  · rename_i entry listed
    exact ⟨entry, listed, of_decide_eq_true found⟩
  · cases found

/-- What the walk along the chains has counted, if it is as many entries as are running, are all of
these. -/
theorem chains_of_walkChains {index : Index} {left : Nat}
    (walked : walkChains index.arena index.arena.size index.newest.toList = some left)
    (all : index.arena.size - left = runningCount index.arena) (pid : Pid) :
    ∃ ids, Leads index.arena index.newest[pid]? ids ∧ ids.Nodup ∧
      ∀ id, id ∈ ids ↔ Runs index.arena pid id := by
  have each : ∀ pid, ∃ ids, Leads index.arena index.newest[pid]? ids ∧
      ∀ id ∈ ids, Runs index.arena pid id := by
    intro pid
    cases newest : index.newest[pid]? with
    | none => exact ⟨[], .done, by simp⟩
    | some head =>
        have listed := Std.TreeMap.mem_toList_iff_getElem?_eq_some.mpr newest
        exact leads_of_walkChains walked pid head listed
  choose chain leads runs using each
  have counted := length_of_walkChains walked fun pid head listed =>
    Std.TreeMap.mem_toList_iff_getElem?_eq_some.mp listed ▸ leads pid
  have distinct := nodup_flatMap_chains (fun pid => (leads pid).nodup) runs
  have running : (index.newest.toList.flatMap fun head => chain head.1) ⊆
      runningIds index.arena := by
    intro id inside
    obtain ⟨head, -, onChain⟩ := List.mem_flatMap.mp inside
    exact mem_runningIds.mpr ⟨head.1, runs head.1 id onChain⟩
  have enough : (runningIds index.arena).length ≤
      (index.newest.toList.flatMap fun head => chain head.1).length := by
    rw [length_runningIds]
    omega
  have perm := (List.subperm_of_subset distinct running).perm_of_length_le enough
  refine ⟨chain pid, leads pid, (leads pid).nodup, fun id => ⟨runs pid id, fun runsHere => ?_⟩⟩
  have inside := perm.mem_iff.mpr (mem_runningIds.mpr ⟨pid, runsHere⟩)
  obtain ⟨head, -, onChain⟩ := List.mem_flatMap.mp inside
  exact (runs head.1 id onChain).pid_eq runsHere ▸ onChain

/-- An index in which the check finds nothing wrong has nothing wrong. -/
theorem viewsAgree_of_isConsistent {index : Index} (checked : index.isConsistent = true) :
    index.ViewsAgree := by
  simp only [isConsistent, Bool.and_eq_true, decide_eq_true_eq] at checked
  obtain ⟨⟨⟨⟨sameLength, sameSize⟩, ascending⟩, starts⟩, walk⟩ := checked
  obtain ⟨pairwise, held⟩ := pairwise_of_isAscending ascending
  split at walk
  · rename_i left walked
    refine ⟨pairwise, ?_, ?_, chains_of_walkChains walked (of_decide_eq_true walk)⟩
    · have nodup : index.recency.Nodup := (List.pairwise_cons.mp pairwise).2.imp Nat.ne_of_lt
      have listed : index.recency ⊆ index.arena.keys := fun id member =>
        Std.TreeMap.mem_keys.mpr (held id member)
      have perm := (List.subperm_of_subset nodup listed).perm_of_length_le
        (by rw [Std.TreeMap.length_keys, sameLength])
      intro id
      rw [← Std.TreeMap.mem_keys, perm.mem_iff]
    · have listed : index.byStart.toList ⊆ startKeys index.arena := fun key member =>
        mem_startKeys.mpr (exists_of_isStartOf (List.all_eq_true.mp starts key member))
      have perm := (List.subperm_of_subset (nodup_byStart index) listed).perm_of_length_le
        (by rw [length_startKeys, Std.TreeSet.length_toList, sameSize])
      intro key
      rw [← Std.TreeSet.mem_toList, perm.mem_iff, mem_startKeys]
  · cases walk

/-- The check accepts an index exactly if all ways to reach its records agree. -/
theorem isConsistent_iff_viewsAgree {index : Index} :
    index.isConsistent = true ↔ index.ViewsAgree :=
  ⟨viewsAgree_of_isConsistent, ViewsAgree.isConsistent⟩

end ProcessWatch.Index
