/-
Module: ProcessWatch.Proofs.Index.Inspection
Purpose: The consistency check of any index whatsoever comes to an end, in whatever order it visits
  the chains, and decides whether all ways to reach the records lead to the same ones.
Trusted boundary: none
Main exports: Index.Counts, Index.CountsAll, Index.Inspects, Index.isConsistent_decides

Links may lead nowhere or round in a circle.  Here the walk along them counts upwards, and no rule but a
look at one more entry takes it further; so a derivation is a walk that ends.  The walk of the check
itself counts the same entries downwards, on a budget.
-/
import ProcessWatch.Proofs.Index.Consistency

namespace ProcessWatch.Index

/-! ## Counting upwards -/

/-- A walk along the links from `cursor`, with `counted` entries behind it, ends with `outcome`: the
number of entries counted by then, or nothing if it meets an entry that does not belong on the chain
or counts more entries than there are. -/
inductive Counts (arena : Arena) (pid : Pid) : Nat → Option RecordId → Option Nat → Prop where
  | finished {counted : Nat} : Counts arena pid counted none (some counted)
  | stray {counted : Nat} {id : RecordId} (misplaced : ¬ Runs arena pid id) :
      Counts arena pid counted (some id) none
  | overrun {counted : Nat} {id : RecordId} (runs : Runs arena pid id)
      (many : arena.size < counted + 1) : Counts arena pid counted (some id) none
  | onward {counted : Nat} {id : RecordId} {entry : Entry} {outcome : Option Nat}
      (found : arena[id]? = some entry) (about : entry.record.pid = pid)
      (running : entry.record.isRunning = true) (few : counted + 1 ≤ arena.size)
      (rest : Counts arena pid (counted + 1) entry.older outcome) :
      Counts arena pid counted (some id) outcome

/-- The walks along several chains, one after the other and with one count for all of them, end with
`outcome`. -/
inductive CountsAll (arena : Arena) : Nat → List (Pid × RecordId) → Option Nat → Prop where
  | finished {counted : Nat} : CountsAll arena counted [] (some counted)
  | broken {counted : Nat} {pid : Pid} {head : RecordId} {heads : List (Pid × RecordId)}
      (walk : Counts arena pid counted (some head) none) :
      CountsAll arena counted ((pid, head) :: heads) none
  | onward {counted sum : Nat} {pid : Pid} {head : RecordId} {heads : List (Pid × RecordId)}
      {outcome : Option Nat} (walk : Counts arena pid counted (some head) (some sum))
      (rest : CountsAll arena sum heads outcome) :
      CountsAll arena counted ((pid, head) :: heads) outcome

/-- The recency list and the order of starts are of the size of the arena and name its entries. -/
def listsEntries (index : Index) : Bool :=
  index.arena.size = index.recency.length &&
    index.arena.size = index.byStart.size &&
    isAscending index.arena 0 index.recency &&
    index.byStart.toList.all (isStartOf index.arena)

/-- The check of an index ends with `verdict` when it visits the chains in this order. -/
inductive Inspects (index : Index) (order : List (Pid × RecordId)) : Bool → Prop where
  | unlisted (lists : index.listsEntries = false) : Inspects index order false
  | broken (lists : index.listsEntries = true) (walk : CountsAll index.arena 0 order none) :
      Inspects index order false
  | counted {sum : Nat} (lists : index.listsEntries = true)
      (walk : CountsAll index.arena 0 order (some sum)) :
      Inspects index order (sum = runningCount index.arena)

/-! ## Every walk ends -/

theorem not_runs_of_missing {arena : Arena} {pid : Pid} {id : RecordId}
    (missing : arena[id]? = none) : ¬ Runs arena pid id := by
  rintro ⟨entry, found, -⟩
  rw [missing] at found
  cases found

/-- A walk ends for want of budget at the latest, and both ways of counting come to the same. -/
theorem counts_walkChain {arena : Arena} {pid : Pid} {counted budget : Nat} {head : Option RecordId}
    (size : counted + budget = arena.size) :
    Counts arena pid counted head
      ((walkChain arena pid budget head).map fun left => arena.size - left) := by
  induction budget generalizing counted head with
  | zero =>
      cases head with
      | none =>
          rw [walkChain, Option.map_some, ← size]
          exact .finished
      | some id =>
          by_cases runs : Runs arena pid id
          · exact .overrun runs (by omega)
          · exact .stray runs
  | succ budget inductionHypothesis =>
      cases head with
      | none =>
          rw [walkChain, Option.map_some, ← size, Nat.add_sub_cancel]
          exact .finished
      | some id =>
          cases found : arena[id]? with
          | none =>
              simp only [walkChain, found, Option.map_none]
              exact .stray (not_runs_of_missing found)
          | some entry =>
              by_cases belongs : entry.record.pid = pid ∧ entry.record.isRunning = true
              · simp only [walkChain, found, belongs, and_self, if_true]
                exact .onward found belongs.1 belongs.2 (by omega)
                  (inductionHypothesis (by omega))
              · simp only [walkChain, found, belongs, if_false, Option.map_none]
                refine .stray ?_
                rintro ⟨other, otherFound, runs⟩
                rw [found] at otherFound
                obtain rfl := Option.some.inj otherFound
                exact belongs runs

theorem countsAll_walkChains {arena : Arena} {counted budget : Nat}
    {heads : List (Pid × RecordId)} (size : counted + budget = arena.size) :
    CountsAll arena counted heads
      ((walkChains arena budget heads).map fun left => arena.size - left) := by
  induction heads generalizing counted budget with
  | nil =>
      have sum : arena.size - budget = counted := by omega
      change CountsAll arena counted [] (some (arena.size - budget))
      rw [sum]
      exact .finished
  | cons first heads inductionHypothesis =>
      obtain ⟨pid, head⟩ := first
      have walk : Counts arena pid counted (some head) _ := counts_walkChain size
      rw [walkChains_cons]
      cases walked : walkChain arena pid budget (some head) with
      | none =>
          rw [walked] at walk
          exact .broken walk
      | some left =>
          rw [walked] at walk
          obtain ⟨ids, -, -, sum⟩ := leads_of_walkChain walked
          exact .onward walk (inductionHypothesis (Nat.sub_add_cancel (by omega)))

/-! ## The order of the chains -/

/-- Two walks may change places: together they take the same from the budget. -/
theorem walkChain_comm (arena : Arena) (budget : Nat) (first second : Pid × RecordId) :
    ((walkChain arena first.1 budget (some first.2)).bind fun left =>
        walkChain arena second.1 left (some second.2)) =
      (walkChain arena second.1 budget (some second.2)).bind fun left =>
        walkChain arena first.1 left (some first.2) := by
  have exchange : ∀ {one two : Pid × RecordId} {left : Nat},
      ((walkChain arena one.1 budget (some one.2)).bind fun left =>
        walkChain arena two.1 left (some two.2)) = some left →
      ((walkChain arena two.1 budget (some two.2)).bind fun left =>
        walkChain arena one.1 left (some one.2)) = some left := by
    intro one two left walked
    obtain ⟨middle, here, later⟩ := Option.bind_eq_some_iff.mp walked
    obtain ⟨ids, leads, runs, rfl⟩ := walkChain_eq_some_iff.mp here
    obtain ⟨others, otherLeads, otherRuns, rfl⟩ := walkChain_eq_some_iff.mp later
    refine Option.bind_eq_some_iff.mpr ⟨left + ids.length, ?_, ?_⟩
    · exact walkChain_eq_some_iff.mpr ⟨others, otherLeads, otherRuns, by omega⟩
    · exact walkChain_eq_some_iff.mpr ⟨ids, leads, runs, rfl⟩
  exact Option.ext fun left => ⟨exchange, exchange⟩

/-- The order in which the chains are visited makes no difference. -/
theorem walkChains_perm {arena : Arena} {heads others : List (Pid × RecordId)}
    (perm : heads.Perm others) (budget : Nat) :
    walkChains arena budget heads = walkChains arena budget others := by
  induction perm generalizing budget with
  | nil => rfl
  | cons first perm inductionHypothesis =>
      rw [walkChains_cons, walkChains_cons]
      exact congrArg _ (funext fun left => inductionHypothesis left)
  | swap first second heads =>
      simp only [walkChains_cons, ← Option.bind_assoc]
      rw [walkChain_comm arena budget second first]
  | trans one two first second => exact (first budget).trans (second budget)

/-- The check ends with what `isConsistent` says, in whatever order it visits the chains. -/
theorem inspects_isConsistent (index : Index) {order : List (Pid × RecordId)}
    (perm : order.Perm index.newest.toList) : Inspects index order index.isConsistent := by
  have size : 0 + index.arena.size = index.arena.size := Nat.zero_add _
  have walk : CountsAll index.arena 0 order _ := countsAll_walkChains size
  rw [walkChains_perm perm] at walk
  have verdict : index.isConsistent = (index.listsEntries && _) := rfl
  rw [verdict]
  cases lists : index.listsEntries with
  | false => exact .unlisted lists
  | true =>
      cases walked : walkChains index.arena index.arena.size index.newest.toList with
      | none =>
          rw [walked] at walk
          exact .broken lists walk
      | some left =>
          rw [walked] at walk
          exact .counted lists walk

/-! ## What the verdict means -/

/-- Chains hold the running entries, each once, exactly if they are made of running entries about their
process numbers and every running entry is on one of them. -/
theorem chains_iff {index : Index} :
    (∀ pid, ∃ ids, Leads index.arena index.newest[pid]? ids ∧ ids.Nodup ∧
        ∀ id, id ∈ ids ↔ Runs index.arena pid id) ↔
      (∀ pid head, index.newest[pid]? = some head →
        ∃ ids, Leads index.arena (some head) ids ∧ ∀ id ∈ ids, Runs index.arena pid id) ∧
      ∀ pid id, Runs index.arena pid id →
        ∃ (on : Pid) (ids : List RecordId), Leads index.arena index.newest[on]? ids ∧
          ids.count id = 1 ∧ ∀ (other : Pid) (others : List RecordId),
            Leads index.arena index.newest[other]? others → id ∈ others → other = on := by
  constructor
  · intro chains
    refine ⟨fun pid head newest => ?_, fun pid id runs => ?_⟩
    · obtain ⟨ids, leads, -, member⟩ := chains pid
      exact ⟨ids, newest ▸ leads, fun id => (member id).mp⟩
    · obtain ⟨ids, leads, nodup, member⟩ := chains pid
      refine ⟨pid, ids, leads, List.count_eq_one_of_mem nodup ((member id).mpr runs), ?_⟩
      intro other others otherLeads inside
      obtain ⟨known, knownLeads, -, knownMember⟩ := chains other
      rw [otherLeads.deterministic knownLeads] at inside
      exact ((knownMember id).mp inside).pid_eq runs
  · rintro ⟨made, covered⟩ pid
    have runsOn : ∀ {on : Pid} {ids : List RecordId}, Leads index.arena index.newest[on]? ids →
        ∀ id ∈ ids, Runs index.arena on id := by
      intro on ids leads id inside
      cases newest : index.newest[on]? with
      | none =>
          rw [newest] at leads
          cases leads
          cases inside
      | some head =>
          obtain ⟨known, knownLeads, runs⟩ := made on head newest
          rw [newest] at leads
          exact runs id (leads.deterministic knownLeads ▸ inside)
    have listed : ∀ id, Runs index.arena pid id →
        ∃ ids, Leads index.arena index.newest[pid]? ids ∧ id ∈ ids := by
      intro id runs
      obtain ⟨on, ids, leads, once, -⟩ := covered pid id runs
      have inside : id ∈ ids := List.count_pos_iff.mp (once ▸ Nat.one_pos)
      exact (runsOn leads id inside).pid_eq runs ▸ ⟨ids, leads, inside⟩
    obtain ⟨ids, leads⟩ : ∃ ids, Leads index.arena index.newest[pid]? ids := by
      cases newest : index.newest[pid]? with
      | none => exact ⟨[], .done⟩
      | some head => exact (made pid head newest).imp fun ids => And.left
    refine ⟨ids, leads, leads.nodup, fun id => ⟨runsOn leads id, fun runs => ?_⟩⟩
    obtain ⟨others, otherLeads, inside⟩ := listed id runs
    exact leads.deterministic otherLeads ▸ inside

/-- The check of an index comes to an end, whatever the index holds and in whatever order the chains are
visited.  It accepts exactly if the recency list is one of ascending positive numbers, those of the
entries; if the order of starts holds the place of each entry and no other; if every chain ends and is
one of running entries about its process number; and if every running entry is on one chain only, and
there once. -/
theorem isConsistent_decides (index : Index) :
    (∀ order : List (Pid × RecordId), order.Perm index.newest.toList →
      Inspects index order index.isConsistent) ∧
      (index.isConsistent = true ↔
        (0 :: index.recency).Pairwise (· < ·) ∧
        (∀ id, id ∈ index.arena ↔ id ∈ index.recency) ∧
        (∀ key : StartKey, key ∈ index.byStart ↔
          ∃ entry, index.arena[key.id]? = some entry ∧ entry.record.startedAt = key.startedAt) ∧
        (∀ pid head, index.newest[pid]? = some head →
          ∃ ids, Leads index.arena (some head) ids ∧ ∀ id ∈ ids, Runs index.arena pid id) ∧
        ∀ pid id, Runs index.arena pid id →
          ∃ (on : Pid) (ids : List RecordId), Leads index.arena index.newest[on]? ids ∧
            ids.count id = 1 ∧ ∀ (other : Pid) (others : List RecordId),
              Leads index.arena index.newest[other]? others → id ∈ others → other = on) := by
  refine ⟨fun order => inspects_isConsistent index, ?_⟩
  rw [isConsistent_iff_viewsAgree, ← chains_iff]
  constructor
  · intro agree
    exact ⟨agree.ascending, agree.held, agree.starts, agree.chains⟩
  · rintro ⟨ascending, held, starts, chains⟩
    exact ⟨ascending, held, starts, chains⟩

/-- An entry that leads to itself: the walk along its chain ends, for there are not so many entries. -/
theorem isConsistent_decides_of_circle :
    let entry : Entry := ⟨Record.started 1 7 1 CommandName.empty 5, 0, some 1⟩
    let index : Index :=
      { arena := Std.TreeMap.empty.insert 1 entry, recency := [1]
        newest := Std.TreeMap.empty.insert 7 1, byStart := Std.TreeSet.empty.insert ⟨5, 1⟩ }
    Inspects index [(7, 1)] false ∧ ¬ ∃ ids, Leads index.arena (some 1) ids := by
  intro entry index
  have verdict : index.isConsistent = false := by decide
  obtain ⟨ends, -⟩ := isConsistent_decides index
  refine ⟨verdict ▸ ends [(7, 1)] (.refl _), ?_⟩
  rintro ⟨ids, leads⟩
  cases leads with
  | step found later =>
      obtain rfl := Option.some.inj found
      exact List.cons_ne_self _ _ ((Leads.step found later).deterministic later)

end ProcessWatch.Index
