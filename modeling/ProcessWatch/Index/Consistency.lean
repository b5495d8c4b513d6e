/-
Module: ProcessWatch.Index.Consistency
Purpose: A check that the four ways to reach the records of a store lead to the same records.
Trusted boundary: none
Main exports: Index.isConsistent

The check looks at sizes and single memberships only.  Its walk along the chains carries one budget
for all of them, so that it ends on links that lead round in a circle, too.
-/
import ProcessWatch.Index.Basic

namespace ProcessWatch.Index

/-- Each number is greater than the one before it and belongs to an entry. -/
def isAscending (arena : Arena) : RecordId → List RecordId → Bool
  | _, [] => true
  | previous, id :: rest =>
      previous < id && arena.contains id && isAscending arena id rest

/-- The key belongs to an entry whose process started at the key's time. -/
def isStartOf (arena : Arena) (key : StartKey) : Bool :=
  match arena[key.id]? with
  | some entry => entry.record.startedAt = key.startedAt
  | none => false

/-- Follow a chain from `cursor` to its end and give what is left of the budget, which every entry
takes one from.  The entries have to be running and about process number `pid`. -/
def walkChain (arena : Arena) (pid : Pid) : Nat → Option RecordId → Option Nat
  | budget, none => some budget
  | 0, some _ => none
  | budget + 1, some id =>
      match arena[id]? with
      | some entry =>
          if entry.record.pid = pid ∧ entry.record.isRunning then
            walkChain arena pid budget entry.older
          else
            none
      | none => none

/-- Follow every chain and give what is left of the budget. -/
def walkChains (arena : Arena) (budget : Nat) (chains : List (Pid × RecordId)) : Option Nat :=
  chains.foldlM (fun budget (pid, head) => walkChain arena pid budget (some head)) budget

/-- How many entries are running. -/
def runningCount (arena : Arena) : Nat :=
  arena.values.countP fun entry => entry.record.isRunning

/-- All ways to reach the records lead to the same ones. -/
def isConsistent (index : Index) : Bool :=
  index.arena.size = index.recency.length &&
    index.arena.size = index.byStart.size &&
    isAscending index.arena 0 index.recency &&
    index.byStart.toList.all (isStartOf index.arena) &&
    match walkChains index.arena index.arena.size index.newest.toList with
    | some left => index.arena.size - left = runningCount index.arena
    | none => false

end ProcessWatch.Index
