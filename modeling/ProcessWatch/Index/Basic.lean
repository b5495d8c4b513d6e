/-
Module: ProcessWatch.Index.Basic
Purpose: All records of a store, reachable by their number, by the time they came, by the process
  that they are about, and by the time their process started.
Trusted boundary: record numbers have no upper bound, and what is asked of memory is asked of these containers
Main exports: Entry, Index, Memory, Memory.KeepsRoom, Index.shortage?, Index.insert,
  Index.evictOldest, Index.unlink, Index.detachNewest, Index.oldestFirst, Index.mostRecent,
  Index.startedWithin?, Index.startedWithin

Several running records may be about one process number, because numbers are used again.  The newest
of them is found by the number, and each one leads to the next older one, so that the running
records of a number form a chain from the newest to the oldest.
-/
import ProcessWatch.Index.StartOrder
import Std.Data.TreeMap

namespace ProcessWatch

/-- A record together with what the store notes about it. -/
structure Entry where
  record : Record
  /-- The number of statistics resets before the record came. -/
  epoch : Nat
  /-- The next older running record about the same process number. -/
  older : Option RecordId
deriving DecidableEq, Repr, Inhabited

/-- The containers of an index that have to have room for a new record before it is added. -/
inductive Container where
  /-- The numbers of the records in the order in which they came. -/
  | recency
  /-- The entries by their numbers. -/
  | arena
  /-- The newest running record about each process number. -/
  | newest
deriving DecidableEq, Repr

/-- The memory that containers meet when they are to hold one more element. -/
structure Memory where
  /-- Why there is none for a container that was created with room for `room` elements and holds
  `held`, if there is none. -/
  shortage? : Container → (room held : Nat) → Option String

namespace Memory

/-- There is always memory. -/
def ample : Memory := ⟨fun _ _ _ => none⟩

/-- A container keeps the room that it was created with: as long as it holds fewer elements, one more
takes no memory.  Containers that are created with room are documented to keep it so. -/
def KeepsRoom (memory : Memory) : Prop :=
  ∀ container room held, held < room → memory.shortage? container room held = none

end Memory

/-- The entries of a store by their record number. -/
abbrev Arena := Std.TreeMap RecordId Entry

/-- The records of a store. -/
structure Index where
  arena : Arena := ∅
  /-- The numbers of all records, in the order in which they came. -/
  recency : List RecordId := []
  /-- The newest running record about each process number. -/
  newest : Std.TreeMap Pid RecordId := ∅
  /-- All records in the order of their start. -/
  byStart : StartOrder := ∅
  /-- The number of the next record. -/
  nextId : RecordId := 1

namespace Index

instance : Inhabited Index := ⟨{}⟩

/-- How many records there are. -/
def size (index : Index) : Nat := index.recency.length

/-! ## Reading -/

/-- The entries with the given numbers, in the given order. -/
def entries (index : Index) (ids : List RecordId) : List Entry :=
  ids.filterMap fun id => index.arena[id]?

/-- All entries in the order in which they came. -/
def oldestFirst (index : Index) : List Entry :=
  index.entries index.recency

/-- The last `count` entries to come, in the order in which they came. -/
def mostRecent (index : Index) (count : Nat) : List Entry :=
  index.entries (index.recency.drop (index.recency.length - count))

/-- The newest running entry about a process number. -/
def newestRunning? (index : Index) (pid : Pid) : Option Entry :=
  index.newest[pid]?.bind fun id => index.arena[id]?

/-- The entries whose process started within an interval, in the order of their start.  There is no
answer if the search for them is refused. -/
def startedWithin? (index : Index) (range : Interval Timestamp) : Option (List Entry) :=
  (index.byStart.within? range).map fun keys => index.entries (keys.map StartKey.id)

/-- The search for what started within an interval is never refused. -/
theorem isSome_startedWithin? (index : Index) (range : Interval Timestamp) :
    (index.startedWithin? range).isSome = true := by
  rw [startedWithin?, Option.isSome_map]
  exact index.byStart.isSome_within? range

/-- The entries whose process started within an interval, in the order of their start. -/
def startedWithin (index : Index) (range : Interval Timestamp) : List Entry :=
  (index.startedWithin? range).get (index.isSome_startedWithin? range)

/-! ## Memory -/

/-- Why there is no memory for one more record in an index that was created with room for `room` of
them, if there is none.  The first container without memory decides. -/
def shortage? (index : Index) (memory : Memory) (room : Nat) : Option String :=
  memory.shortage? .recency room index.recency.length <|>
    memory.shortage? .arena room index.arena.size <|>
      memory.shortage? .newest room index.newest.size

@[simp] theorem shortage?_ample (index : Index) (room : Nat) :
    index.shortage? .ample room = none := rfl

/-! ## Changing -/

/-- Make `head` the newest running record about a process number; without one the number has no
running records. -/
def setNewest (index : Index) (pid : Pid) (head : Option RecordId) : Index :=
  match head with
  | some id => { index with newest := index.newest.insert pid id }
  | none => { index with newest := index.newest.erase pid }

/-- Add the record of a process that has just started, in front of the running records about the
same process number. -/
def insert (index : Index) (pid parent : Pid) (name : CommandName) (time : Timestamp)
    (epoch : Nat) : Record × Index :=
  let record := Record.started index.nextId pid parent name time
  let entry : Entry := { record := record, epoch := epoch, older := index.newest[pid]? }
  (record,
    { arena := index.arena.insert record.id entry
      recency := index.recency ++ [record.id]
      newest := index.newest.insert pid record.id
      byStart := index.byStart.insert ⟨time, record.id⟩
      nextId := index.nextId + 1 })

/-- Follow a chain from `cursor` to the entry that leads to `target`, and let it lead to what
`target` leads to.  The walk ends after `budget` steps. -/
def bypass (target : Entry) : Nat → RecordId → Arena → Arena
  | 0, _, arena => arena
  | budget + 1, cursor, arena =>
      match arena[cursor]? with
      | none => arena
      | some entry =>
          match entry.older with
          | none => arena
          | some older =>
              if older = target.record.id then
                arena.insert cursor { entry with older := target.older }
              else
                bypass target budget older arena

/-- Take an entry that has left the arena out of the chain of its process number, wherever it
stands in it.  A chain meets no entry twice, so that the walk along it is shorter than the arena is
large. -/
def unlink (index : Index) (entry : Entry) : Index :=
  match index.newest[entry.record.pid]? with
  | none => index
  | some head =>
      if head = entry.record.id then
        index.setNewest entry.record.pid entry.older
      else
        { index with arena := bypass entry index.arena.size head index.arena }

/-- Take an entry out of the arena and of the order of starts. -/
def remove (index : Index) (id : RecordId) (entry : Entry) : Index :=
  { index with
    arena := index.arena.erase id
    byStart := index.byStart.erase ⟨entry.record.startedAt, id⟩ }

/-- Remove the record that came first. -/
def evictOldest (index : Index) : Option Entry × Index :=
  match index.recency with
  | [] => (none, index)
  | id :: recency =>
      let index := { index with recency := recency }
      match index.arena[id]? with
      | none => (none, index)
      | some entry =>
          let index := index.remove id entry
          (some entry, if entry.record.isRunning then index.unlink entry else index)

/-- Take the newest running entry about a process number out of its chain.  It stays among the
records. -/
def detachNewest (index : Index) (pid : Pid) : Option (Entry × Index) := do
  let id ← index.newest[pid]?
  let entry ← index.arena[id]?
  let detached := { entry with older := none }
  let index := index.setNewest pid entry.older
  return (detached, { index with arena := index.arena.insert id detached })

/-- Put an entry in place of the one with the same record number. -/
def replace (index : Index) (entry : Entry) : Index :=
  { index with arena := index.arena.insert entry.record.id entry }

/-- Remove every record.  Their numbers are not used again. -/
def clear (index : Index) : Index :=
  { nextId := index.nextId }

end Index

end ProcessWatch
