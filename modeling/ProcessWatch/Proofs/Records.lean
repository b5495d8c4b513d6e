/-
Module: ProcessWatch.Proofs.Records
Purpose: Plain lists of records in the order in which they came: the last running record about a
  process number, its end, and the list that keeps only so many records.
Trusted boundary: none
Main exports: Record.runsAs, Record.ended, Record.startsNoLater, Records.lastRunning?,
  Records.changeLastRunning, Records.push, Records.displaced?, Records.inStartOrder,
  Records.lastRunning?_eq_some_iff, Records.push_eq_rtake
-/
import ProcessWatch.Index.StartOrder
import Mathlib.Data.List.DropRight

namespace ProcessWatch

namespace Record

/-- The record is a running one about process number `pid`. -/
def runsAs (record : Record) (pid : Pid) : Bool := record.pid = pid ∧ record.isRunning = true

/-- The record after its process has ended, which is never before it started. -/
def ended (record : Record) (time : Timestamp) (code : ExitCode) (usage : Usage) : Record :=
  { record with
    endedAt := some (max time record.startedAt)
    status := .exited
    exitCode := code
    usage := usage }

/-- Where the record stands in the order of starts. -/
def startKey (record : Record) : StartKey := ⟨record.startedAt, record.id⟩

/-- The first record does not stand behind the second one in the order of starts. -/
def startsNoLater (first second : Record) : Bool :=
  StartKey.order first.startKey second.startKey ≠ .gt

/-- A record runs as a process number if it is about that number and has not ended. -/
theorem runsAs_iff {record : Record} {pid : Pid} :
    record.runsAs pid = true ↔ record.pid = pid ∧ record.isRunning = true := by
  simp [runsAs]

theorem status_of_runsAs {record : Record} {pid : Pid} (runs : record.runsAs pid = true) :
    record.status = .running :=
  of_decide_eq_true (runsAs_iff.mp runs).2

/-- A running record can end at any time. -/
theorem exit?_of_isRunning {record : Record} (running : record.isRunning = true)
    (time : Timestamp) (code : ExitCode) (usage : Usage) :
    record.exit? time code usage = some (record.ended time code usage) := by
  rw [exit?, if_pos running, ended]

end Record

namespace Records

/-- The last running record about a process number. -/
def lastRunning? (records : List Record) (pid : Pid) : Option Record :=
  (records.filter fun record => record.runsAs pid).getLast?

/-- Change the last running record about a process number. -/
def changeLastRunning (pid : Pid) (change : Record → Record) : List Record → List Record
  | [] => []
  | record :: records =>
      if records.any fun later => later.runsAs pid then
        record :: changeLastRunning pid change records
      else if record.runsAs pid then
        change record :: records
      else
        record :: records

/-- Add a record behind all others.  The first one makes room for it if there are `capacity` of
them. -/
def push (capacity : Nat) (records : List Record) (record : Record) : List Record :=
  (if capacity ≤ records.length then records.tail else records) ++ [record]

/-- The record that makes room for one more: the first one, if there are `capacity` of them. -/
def displaced? (capacity : Nat) (records : List Record) : Option Record :=
  if capacity ≤ records.length then records.head? else none

/-- The records in the order of their start, and of equal starts in the order of their numbers. -/
def inStartOrder (records : List Record) : List Record := records.mergeSort Record.startsNoLater

/-! ## The last running record -/

/-- The last running record of a longer list is among the later ones, if there is one. -/
theorem lastRunning?_append (early late : List Record) (pid : Pid) :
    lastRunning? (early ++ late) pid = (lastRunning? late pid).or (lastRunning? early pid) := by
  simp [lastRunning?, List.filter_append, List.getLast?_append]

/-- There is no last running record exactly if none runs. -/
theorem lastRunning?_eq_none_iff {records : List Record} {pid : Pid} :
    lastRunning? records pid = none ↔ ∀ record ∈ records, record.runsAs pid = false := by
  simp [lastRunning?]

/-- Where the last running record stands. -/
theorem lastRunning?_eq_some_iff {records : List Record} {pid : Pid} {record : Record} :
    lastRunning? records pid = some record ↔
      ∃ before after, records = before ++ record :: after ∧ record.runsAs pid = true ∧
        ∀ later ∈ after, later.runsAs pid = false := by
  constructor
  · intro last
    have last : (records.filter fun record => record.runsAs pid).getLast? = some record := last
    obtain ⟨others, split⟩ := List.getLast?_eq_some_iff.mp last
    obtain ⟨before, rest, rfl, -, restFilter⟩ := List.filter_eq_append_iff.mp split
    obtain ⟨between, after, rfl, noneBetween, runs, afterFilter⟩ :=
      List.filter_eq_cons_iff.mp restFilter
    refine ⟨before ++ between, after, by simp, runs, ?_⟩
    simpa [List.filter_eq_nil_iff] using afterFilter
  · intro parted
    rcases parted with ⟨before, after, rfl, runs, noneAfter⟩
    have noneLast := lastRunning?_eq_none_iff.mpr noneAfter
    rw [← List.singleton_append, lastRunning?_append, lastRunning?_append, noneLast]
    simp [lastRunning?, runs]

/-- The last running record is one of the list, and it runs. -/
theorem runsAs_of_lastRunning? {records : List Record} {pid : Pid} {record : Record}
    (last : lastRunning? records pid = some record) :
    record ∈ records ∧ record.runsAs pid = true := by
  obtain ⟨before, after, rfl, runs, -⟩ := lastRunning?_eq_some_iff.mp last
  exact ⟨by simp, runs⟩

/-! ## Changing it -/

@[simp] theorem length_changeLastRunning (pid : Pid) (change : Record → Record)
    (records : List Record) :
    (changeLastRunning pid change records).length = records.length := by
  induction records with
  | nil => rfl
  | cons record records inductionHypothesis =>
      rw [changeLastRunning]
      split
      · simp [inductionHypothesis]
      · split <;> rfl

/-- A change among the later records leaves the earlier ones alone. -/
theorem changeLastRunning_append_of_some {early late : List Record} {pid : Pid} {record : Record}
    (change : Record → Record) (last : lastRunning? late pid = some record) :
    changeLastRunning pid change (early ++ late) =
      early ++ changeLastRunning pid change late := by
  have runs : ∃ later ∈ late, later.runsAs pid = true :=
    ⟨record, runsAs_of_lastRunning? last⟩
  induction early with
  | nil => rfl
  | cons first early inductionHypothesis =>
      have later : ((early ++ late).any fun later => later.runsAs pid) = true := by
        obtain ⟨running, member, runs⟩ := runs
        exact List.any_eq_true.mpr ⟨running, List.mem_append_right _ member, runs⟩
      rw [List.cons_append, changeLastRunning, if_pos later, inductionHypothesis]
      rfl

/-- Later records that do not run are not changed. -/
theorem changeLastRunning_append_of_none {early late : List Record} {pid : Pid}
    (change : Record → Record) (noneLate : lastRunning? late pid = none) :
    changeLastRunning pid change (early ++ late) =
      changeLastRunning pid change early ++ late := by
  have noneLate := lastRunning?_eq_none_iff.mp noneLate
  induction early with
  | nil =>
      cases late with
      | nil => rfl
      | cons first late =>
          have noneLater : (late.any fun later => later.runsAs pid) = false := by
            simpa using fun later member => noneLate later (by simp [member])
          simp [changeLastRunning, noneLater, noneLate first (by simp)]
  | cons first early inductionHypothesis =>
      have same : ((early ++ late).any fun later => later.runsAs pid) =
          early.any fun later => later.runsAs pid := by
        have noneLater : (late.any fun later => later.runsAs pid) = false := by
          simpa using noneLate
        rw [List.any_append, noneLater, Bool.or_false]
      rw [List.cons_append, changeLastRunning, changeLastRunning, same, inductionHypothesis]
      split
      · rfl
      · split <;> rfl

/-- What the change does to a list whose last running record is known. -/
theorem changeLastRunning_split {before after : List Record} {record : Record} {pid : Pid}
    (change : Record → Record) (runs : record.runsAs pid = true)
    (noneAfter : ∀ later ∈ after, later.runsAs pid = false) :
    changeLastRunning pid change (before ++ record :: after) = before ++ change record :: after := by
  have noneAny : (after.any fun later => later.runsAs pid) = false := by
    simpa using noneAfter
  have last : lastRunning? (record :: after) pid = some record :=
    lastRunning?_eq_some_iff.mpr ⟨[], after, rfl, runs, noneAfter⟩
  rw [changeLastRunning_append_of_some change last, changeLastRunning, noneAny, if_neg (by simp),
    if_pos runs]

/-- Nothing is changed where nothing runs. -/
theorem changeLastRunning_of_none {records : List Record} {pid : Pid} (change : Record → Record)
    (untracked : lastRunning? records pid = none) :
    changeLastRunning pid change records = records :=
  @changeLastRunning_append_of_none [] records pid change untracked

/-- A rewriting of all records that neither the choice nor the change looks at may come first. -/
theorem changeLastRunning_map {pid : Pid} {rewrite change : Record → Record}
    (runs : ∀ record, (rewrite record).runsAs pid = record.runsAs pid)
    (commutes : ∀ record, change (rewrite record) = rewrite (change record))
    (records : List Record) :
    changeLastRunning pid change (records.map rewrite) =
      (changeLastRunning pid change records).map rewrite := by
  induction records with
  | nil => rfl
  | cons record records inductionHypothesis =>
      have any : ((records.map rewrite).any fun later => later.runsAs pid) =
          records.any fun later => later.runsAs pid := by
        rw [List.any_map]
        exact congrArg records.any (funext runs)
      rw [List.map_cons, changeLastRunning, changeLastRunning, any, runs, inductionHypothesis,
        commutes]
      split
      · rfl
      · split <;> rfl

/-- The last running record about a process number is the last one among all records about it, and
among records about other numbers there is none. -/
theorem filter_changeLastRunning {pid : Pid} {change : Record → Record}
    (same : ∀ record, (change record).pid = record.pid) (mine : Pid → Bool)
    (records : List Record) :
    (changeLastRunning pid change records).filter (fun record => mine record.pid) =
      if mine pid then
        changeLastRunning pid change (records.filter fun record => mine record.pid)
      else
        records.filter fun record => mine record.pid := by
  cases last : lastRunning? records pid with
  | none =>
      have untracked := lastRunning?_eq_none_iff.mp last
      have untrackedMine : lastRunning? (records.filter fun record => mine record.pid) pid = none :=
        lastRunning?_eq_none_iff.mpr fun record member =>
          untracked record (List.mem_of_mem_filter member)
      rw [changeLastRunning_of_none change last, changeLastRunning_of_none change untrackedMine,
        ite_self]
  | some record =>
      obtain ⟨before, after, rfl, runs, noneAfter⟩ := lastRunning?_eq_some_iff.mp last
      have about : record.pid = pid := (Record.runsAs_iff.mp runs).1
      rw [changeLastRunning_split change runs noneAfter]
      simp only [List.filter_append, List.filter_cons, same, about]
      split
      · rw [changeLastRunning_split change runs]
        exact fun later member => noneAfter later (List.mem_of_mem_filter member)
      · rfl

/-- Whatever goes, only one record comes. -/
theorem mem_of_mem_push {capacity : Nat} {records : List Record} {record member : Record}
    (inside : member ∈ push capacity records record) : member ∈ records ∨ member = record := by
  rcases List.mem_append.mp inside with old | new
  · left
    split at old
    · exact List.mem_of_mem_tail old
    · exact old
  · exact Or.inr (List.mem_singleton.mp new)

/-! ## The last records -/

/-- What is left of a list when all but its last elements are gone. -/
theorem eq_rtake_iff {α : Type} {kept all : List α} {count : Nat} :
    kept = all.rtake count ↔ kept <:+ all ∧ kept.length = min count all.length := by
  constructor
  · rintro rfl
    refine ⟨List.drop_suffix _ _, ?_⟩
    rw [List.rtake, List.length_drop]
    omega
  · intro isLast
    rcases isLast with ⟨suffix, length⟩
    rw [List.rtake, List.suffix_iff_eq_drop.mp suffix, length]
    congr 1
    omega

theorem length_rtake_le {α : Type} (count : Nat) (list : List α) :
    (list.rtake count).length ≤ count := by
  rw [(eq_rtake_iff.mp rfl).2]
  exact Nat.min_le_left _ _

theorem rtake_min_length {α : Type} (count : Nat) (list : List α) :
    list.rtake (min count list.length) = list.rtake count := by
  rw [List.rtake, List.rtake]
  congr 1
  omega

/-- The last few of the last many are the last few. -/
theorem rtake_rtake {α : Type} {few many : Nat} (fewer : few ≤ many) (list : List α) :
    (list.rtake many).rtake few = list.rtake few := by
  rw [List.rtake, List.rtake, List.rtake, List.drop_drop, List.length_drop]
  congr 1
  omega

/-- What is forgotten already would also be forgotten later. -/
theorem rtake_append_singleton_rtake {α : Type} (count : Nat) (list : List α) (last : α) :
    (list.rtake count ++ [last]).rtake count = (list ++ [last]).rtake count := by
  cases count with
  | zero => simp
  | succ count =>
      rw [List.rtake_concat_succ, List.rtake_concat_succ, rtake_rtake (Nat.le_succ count)]

/-- A list that holds so many records keeps the last of them. -/
theorem push_eq_rtake {capacity : Nat} {records : List Record}
    (positive : 0 < capacity) (room : records.length ≤ capacity) (record : Record) :
    push capacity records record = (records ++ [record]).rtake capacity := by
  rw [push, List.rtake, List.length_append, List.length_singleton]
  by_cases full : capacity ≤ records.length
  · have same : records.length + 1 - capacity = 1 := by omega
    rw [if_pos full, same]
    cases records with
    | nil => simp at room full; omega
    | cons first records => rfl
  · have same : records.length + 1 - capacity = 0 := by omega
    rw [if_neg full, same]
    rfl

end Records

end ProcessWatch
