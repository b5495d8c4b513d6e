/-
Module: ProcessWatch.Proofs.Roster.Chronology
Purpose: As long as the clock does not go back from one start to the next, the order of starts is the
  order in which the records came, and an interval of starts is a segment of it.
Trusted boundary: calls meet enough memory, for which Proofs.Roster.Memory gives a condition
Main exports: Monitor.startTimes, Roster.startedAt_after_sublist, filter_isInfix_of_convex,
  Roster.startedWithin_of_sorted, Monitor.start_order_is_recency
-/
import ProcessWatch.Proofs.Roster.Truncation

namespace ProcessWatch

/-! ## When records started -/

namespace Monitor

/-- What the clock reads for a call that adds a record. -/
def startTime? (monitor : Monitor) (call : Call) : Option Timestamp :=
  match monitor.happening? call with
  | some (.started _) => some monitor.clock.now
  | _ => none

/-- What the clock reads for each of the calls that add records. -/
def startTimes (monitor : Monitor) : List Call → List Timestamp
  | [] => []
  | call :: calls =>
      (monitor.startTime? call).toList ++ (monitor.perform call).monitor.startTimes calls

end Monitor

namespace Roster

open Monitor (Call Change)

variable {roster : Roster}

/-- When the records of the roster started. -/
def startedAt (roster : Roster) : List Timestamp := roster.records.map Record.startedAt

/-- What the clock reads for a change that adds a record. -/
def startTime? (roster : Roster) (change : Change) : Option Timestamp :=
  match roster.happening? change with
  | some (.started _) => some roster.clock.now
  | _ => none

theorem Pictures.startTime? {monitor : Monitor} (pictures : roster.Pictures monitor) (call : Call) :
    monitor.startTime? call = roster.startTime? call.change := by
  rw [Monitor.startTime?, Roster.startTime?, pictures.happening?, pictures.clock]

theorem startedAt_push_sublist (capacity : Nat) (records : List Record) (record : Record) :
    ((Records.push capacity records record).map Record.startedAt).Sublist
      (records.map Record.startedAt ++ [record.startedAt]) := by
  rw [Records.push, List.map_append]
  apply List.Sublist.append_right
  split
  · exact (List.tail_sublist records).map Record.startedAt
  · exact List.Sublist.refl _

/-- A change adds what the clock reads at most, and that behind all others. -/
theorem startedAt_undergo_sublist (roster : Roster) (change : Change) :
    (roster.undergo change).startedAt.Sublist
      (roster.startedAt ++ (roster.startTime? change).toList) := by
  cases change with
  | start pid parent name =>
      rw [undergo]
      cases recording : roster.monitoring with
      | false =>
          rw [start_of_paused parent name recording]
          exact List.sublist_append_left _ _
      | true =>
          have reads : roster.startTime? (.start pid parent name) = some roster.clock.now := by
            rw [startTime?, happening?, start_of_recording parent name recording]
            rfl
          rw [reads, start_of_recording parent name recording]
          exact startedAt_push_sublist _ _ _
  | exit pid code usage =>
      rw [undergo, startedAt, map_exit Record.startedAt fun _ _ _ _ => rfl]
      exact List.sublist_append_left _ _
  | clear => exact List.nil_sublist _
  | _ => exact List.sublist_append_left _ _

theorem startedAt_after_sublist {monitor : Monitor} (pictures : roster.Pictures monitor)
    (calls : List Call) :
    (roster.after calls).startedAt.Sublist (roster.startedAt ++ monitor.startTimes calls) := by
  induction calls generalizing roster monitor with
  | nil =>
      rw [Monitor.startTimes, List.append_nil]
      exact List.Sublist.refl _
  | cons call calls inductionHypothesis =>
      have later := inductionHypothesis (pictures.undergo call.change)
      have now := roster.startedAt_undergo_sublist call.change
      rw [Roster.after_cons, Monitor.startTimes, Monitor.perform_monitor, pictures.startTime?,
        ← List.append_assoc]
      exact later.trans (now.append_right _)

end Roster

/-! ## Segments -/

/-- What lies between two items of an interval lies in it, so that the interval is a segment. -/
theorem filter_isInfix_of_convex {α : Type} {r : α → α → Prop} {p : α → Bool} {items : List α}
    (ordered : items.Pairwise r)
    (convex : ∀ first between last, r first between → r between last →
      p first = true → p last = true → p between = true) : items.filter p <:+: items := by
  induction items with
  | nil => exact List.infix_rfl
  | cons first items inductionHypothesis =>
      obtain ⟨above, later⟩ := List.pairwise_cons.mp ordered
      rw [List.filter_cons]
      split
      case isTrue inside =>
        -- Behind an item inside, those inside come before those that are not.
        have early : items.Pairwise fun between last => p last = true → p between = true :=
          later.imp_of_mem fun {between last} member _ le =>
            convex first between last (above between member) le inside
        rw [← takeWhile_eq_filter early]
        exact ((List.prefix_cons_inj first).mpr (List.takeWhile_prefix p)).isInfix
      case isFalse =>
        exact (inductionHypothesis later).trans (List.suffix_cons first items).isInfix

theorem Interval.contains_of_between {range : Interval Timestamp} {first between last : Timestamp}
    (le : first ≤ between) (le' : between ≤ last) (containsFirst : range.contains first = true)
    (containsLast : range.contains last = true) : range.contains between = true := by
  obtain ⟨lower, upper⟩ := range
  cases lower <;> cases upper <;>
    simp only [contains, Bool.and_eq_true, decide_eq_true_eq] at containsFirst containsLast ⊢ <;>
    grind

namespace Roster

variable {roster : Roster}

/-- Records that came in the order of their start are in start order already. -/
theorem startedWithin_of_sorted (numbered : roster.Numbered)
    (sorted : roster.startedAt.Pairwise (· ≤ ·)) (range : Interval Timestamp) :
    roster.startedWithin range =
      roster.records.filter fun record => range.contains record.startedAt := by
  have inOrder : roster.records.Pairwise fun first second => first.startsNoLater second := by
    have both := (List.pairwise_map.mp sorted).and (List.pairwise_map.mp numbered.ascending)
    refine both.imp fun {first second} orders => ?_
    obtain ⟨notLater, below⟩ := orders
    exact Record.startsNoLater_iff.mpr ((Nat.lt_or_eq_of_le notLater).imp_right fun same =>
      ⟨same, Nat.le_of_lt below⟩)
  exact List.mergeSort_of_pairwise (inOrder.filter _)

/-- What is listed of an interval is a segment of all that pass the filter. -/
theorem listing_within_of_sorted (numbered : roster.Numbered)
    (sorted : roster.startedAt.Pairwise (· ≤ ·)) (range : Interval Timestamp) :
    let matching := roster.records.filter fun record => roster.filter.accepts record.subject
    let inside := matching.filter fun record => range.contains record.startedAt
    inside <:+: matching ∧ ∀ limit, roster.listing limit (roster.startedWithin range) =
      { records := inside.take limit
        truncated := limit < inside.length
        totalMatched := inside.length } := by
  intro matching inside
  constructor
  · have ordered : matching.Pairwise fun first second => first.startedAt ≤ second.startedAt :=
      (List.pairwise_map.mp sorted).filter _
    exact filter_isInfix_of_convex ordered fun first between last => Interval.contains_of_between
  · intro limit
    have swapped : (roster.records.filter fun record => range.contains record.startedAt).filter
        (fun record => roster.filter.accepts record.subject) = inside :=
      List.filter_comm ..
    rw [startedWithin_of_sorted numbered sorted, listing, swapped]

end Roster

namespace Monitor

/-- If the clock never goes back from one start to the next, a listing in the order of starts is the
listing in the order in which the records came, and for every interval it shows a segment of that. -/
theorem start_order_is_recency (options : Store.Options) (time : Timestamp) (calls : List Call)
    (few : calls.countP Call.isStart < Word.size)
    (monotone : ((create options time).1.startTimes calls).Pairwise (· ≤ ·)) :
    let store := ((create options time).1.after calls).store
    (∀ limit, store.listStartedWithin {} limit = store.list limit) ∧
      ∀ range limit,
        (store.listStartedWithin range limit).records <:+: (store.list store.capacity).records ∧
        ((store.listStartedWithin range limit).totalMatched ≤ limit →
          (store.listStartedWithin range limit).records =
            (store.list store.capacity).records.filter fun record =>
              range.contains record.startedAt) := by
  intro store
  let roster := (Roster.create options time).after calls
  have start := Roster.Pictures.create options time
  have models : roster.Models store := (start.after calls).models
  have bound : roster.nextId ≤ Word.size := Roster.nextId_after_create_le options time few
  have sorted : roster.startedAt.Pairwise (· ≤ ·) :=
    monotone.sublist (Roster.startedAt_after_sublist start calls)
  constructor
  · intro limit
    have all : roster.startedWithin {} = roster.records :=
      (Roster.startedWithin_of_sorted models.numbered sorted {}).trans
        (List.filter_eq_self.mpr fun record _ => rfl)
    rw [models.listStartedWithin_eq bound {} limit, models.list_eq, all]
  · intro range limit
    let matching := roster.records.filter fun record => roster.filter.accepts record.subject
    let inside := matching.filter fun record => range.contains record.startedAt
    obtain ⟨segment, lists⟩ := Roster.listing_within_of_sorted models.numbered sorted range
    have fits : matching.length ≤ store.capacity :=
      (List.length_filter_le _ _).trans (models.capacity ▸ models.room)
    have whole : (store.list store.capacity).records = matching := by
      rw [models.list_eq]
      exact List.take_of_length_le fits
    have listed : store.listStartedWithin range limit =
        { records := inside.take limit
          truncated := limit < inside.length
          totalMatched := inside.length } :=
      (models.listStartedWithin_eq bound range limit).trans (lists limit)
    rw [listed, whole]
    exact ⟨(List.take_prefix limit inside).isInfix.trans segment, List.take_of_length_le⟩

/-- Two processes start at the same time, and a third one later, which drops the first. -/
theorem start_order_is_recency_of_tie :
    let calls : List Call :=
      [.start 7 1 "sh", .start 8 1 "sh", .moveClock (.advance ⟨3⟩), .start 9 1 "sh"]
    let monitor := (create { capacity := 2 } 5).1
    let store := (monitor.after calls).store
    monitor.startTimes calls = [5, 5, 8] ∧
      store.listStartedWithin {} 1 = store.list 1 ∧
      (store.listStartedWithin ⟨.inclusive 5, .exclusive 8⟩ 1).records =
        (store.list 2).records.filter fun record => record.pid = 8 := by
  intro calls monitor store
  have few : calls.countP Call.isStart < Word.size := by decide
  have times : monitor.startTimes calls = [5, 5, 8] := by decide +kernel
  have monotone : (monitor.startTimes calls).Pairwise (· ≤ ·) := by
    rw [times]
    decide
  obtain ⟨everything, within⟩ := start_order_is_recency { capacity := 2 } 5 calls few monotone
  have enough : (store.listStartedWithin ⟨.inclusive 5, .exclusive 8⟩ 1).totalMatched ≤ 1 := by
    decide +kernel
  refine ⟨times, everything 1, ((within ⟨.inclusive 5, .exclusive 8⟩ 1).2 enough).trans ?_⟩
  decide +kernel

end Monitor

end ProcessWatch
