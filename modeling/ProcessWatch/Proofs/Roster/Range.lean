/-
Module: ProcessWatch.Proofs.Roster.Range
Purpose: A listing of what started within an interval comes back and shows the records that started there
  and pass the filter, earlier starts first, whatever the ends of the interval are.
Trusted boundary: calls meet enough memory, for which Proofs.Roster.Memory gives a condition
Main exports: Interval.Refused, StartOrder.between?_eq_none_iff, Store.listStartedWithin?_eq,
  Roster.Numbered.exists_sorted_within, Monitor.listing_within_exact

The ends are turned into keys of the start order, which refuses to be searched between ends that are out
of order.  So the ends are compared first, and between ends out of order there is nothing to search for.
-/
import ProcessWatch.Proofs.Roster.Truncation

namespace ProcessWatch

/-! ## What is refused -/

namespace Interval

/-- A search is refused if the lower end lies above the upper one, or if both exclude the same key. -/
def Refused (range : Interval StartKey) : Prop :=
  ∃ low high, range.lower.value? = some low ∧ range.upper.value? = some high ∧
    (StartKey.order low high = .gt ∨
      low = high ∧ range.lower = .exclusive low ∧ range.upper = .exclusive high)

theorem isRefused_iff_refused (range : Interval StartKey) :
    range.isRefused = true ↔ range.Refused := by
  obtain ⟨lower, upper⟩ := range
  cases lower <;> cases upper <;> simp [isRefused, Refused, Bound.value?]

/-- Ends are compared with success exactly if a search between them is not refused. -/
theorem isOrdered_iff_not_refused (range : Interval StartKey) :
    range.isOrdered = true ↔ ¬range.Refused := by
  rw [← isRefused_iff_refused, isRefused_eq_not_isOrdered, Bool.not_eq_true', Bool.not_eq_false]

/-- Nothing lies between a lower end and an upper one below it. -/
theorem not_contains_of_inverted {range : Interval Timestamp} {low high : Timestamp}
    (lower : range.lower.value? = some low) (upper : range.upper.value? = some high)
    (inverted : high < low) (time : Timestamp) : range.contains time = false := by
  obtain ⟨lowerEnd, upperEnd⟩ := range
  cases lowerEnd <;> cases upperEnd <;>
    simp only [Bound.value?, Option.some.injEq, reduceCtorEq] at lower upper <;>
    simp only [contains, Bool.and_eq_false_iff, decide_eq_false_iff_not] <;>
    grind

end Interval

theorem StartOrder.between?_eq_none_iff (keys : StartOrder) (range : Interval StartKey) :
    keys.between? range = none ↔ range.Refused := by
  rw [between?, ← Interval.isRefused_iff_refused]
  cases range.isRefused <;> simp

/-- A listing of an interval comes back, and with that listing. -/
theorem Store.listStartedWithin?_eq (store : Store) (range : Interval Timestamp) (limit : Nat) :
    store.listStartedWithin? range limit = some (store.listStartedWithin range limit) := by
  rw [listStartedWithin?, listStartedWithin, Index.startedWithin, ← Option.map_some, Option.some_get]

/-! ## What is listed -/

namespace Record

/-- The first record stands before the second one in the order of starts. -/
def StartsBefore (first second : Record) : Prop :=
  first.startedAt < second.startedAt ∨
    first.startedAt = second.startedAt ∧ first.id < second.id

end Record

namespace Roster

variable {roster : Roster}

/-- The candidates of a listing of an interval that pass the filter are the records to be shown, in the
order of their start. -/
theorem Numbered.exists_sorted_within (numbered : roster.Numbered) (range : Interval Timestamp) :
    ∃ sorted : List Record,
      sorted.Perm (roster.records.filter fun record =>
        range.contains record.startedAt && roster.filter.accepts record.subject) ∧
      sorted.Nodup ∧ sorted.Pairwise Record.StartsBefore ∧
      ∀ limit, roster.listing limit (roster.startedWithin range) =
        { records := sorted.take limit
          truncated := limit < sorted.length
          totalMatched := sorted.length } := by
  let started := roster.records.filter fun record => range.contains record.startedAt
  let sorted := (Records.inStartOrder started).filter fun record =>
    roster.filter.accepts record.subject
  have perm : sorted.Perm (roster.records.filter fun record =>
      range.contains record.startedAt && roster.filter.accepts record.subject) := by
    have filtered := (List.mergeSort_perm started Record.startsNoLater).filter
      fun record => roster.filter.accepts record.subject
    rw [List.filter_filter] at filtered
    simp only [Bool.and_comm (roster.filter.accepts _)] at filtered
    exact filtered
  have ids : (sorted.map Record.id).Nodup :=
    (perm.map Record.id).nodup_iff.mpr (numbered.nodup.sublist (List.filter_sublist.map Record.id))
  have inOrder := (Records.pairwise_inStartOrder started).filter
    fun record => roster.filter.accepts record.subject
  refine ⟨sorted, perm, ids.of_map _, ?_, fun limit => rfl⟩
  refine (inOrder.and (List.pairwise_map.mp ids)).imp fun {first second} both => ?_
  obtain ⟨notLater, other⟩ := both
  exact (Record.startsNoLater_iff.mp notLater).imp_right fun same =>
    ⟨same.1, Nat.lt_of_le_of_ne same.2 other⟩

end Roster

namespace Monitor

/-- A listing of an interval comes back in every state: the start order refuses some searches, and the
listing makes none of them.  It shows the first of the held records that started there and pass the
filter, earlier starts first and each one once, and it tells how many there are.  An interval in which
nothing started, such as one with its ends inverted, gives an empty listing. -/
theorem listing_within_exact (options : Store.Options) (time : Timestamp) (calls : List Call)
    (few : calls.countP Call.isStart < Word.size) (range : Interval Timestamp) (limit : Nat) :
    let monitor := (create options time).1.after calls
    let store := monitor.store
    let result := store.listStartedWithin range limit
    let matching := monitor.held.filter fun record =>
      range.contains record.startedAt && store.filter.accepts record.subject
    store.listStartedWithin? range limit = some result ∧
      (∀ keys, store.index.byStart.between? keys = none ↔ keys.Refused) ∧
      (range.startKeys.isOrdered = true ↔ ¬range.startKeys.Refused) ∧
      result.totalMatched = matching.length ∧
      (result.truncated = true ↔ limit < matching.length) ∧
      (∃ sorted : List Record, sorted.Perm matching ∧ sorted.Nodup ∧
        sorted.Pairwise Record.StartsBefore ∧ result.records = sorted.take limit) ∧
      ((∀ record ∈ monitor.held, range.contains record.startedAt = false) → result = {}) ∧
      ∀ low high, range.lower.value? = some low → range.upper.value? = some high → high < low →
        result = {} := by
  intro monitor store result matching
  let roster := (Roster.create options time).after calls
  have models : roster.Models store := ((Roster.Pictures.create options time).after calls).models
  have bound : roster.nextId ≤ Word.size := Roster.nextId_after_create_le options time few
  obtain ⟨sorted, perm, distinct, inOrder, lists⟩ := models.numbered.exists_sorted_within range
  have same : sorted.Perm matching := by
    have held : monitor.held = roster.records := models.records
    rw [← models.filter, ← held] at perm
    exact perm
  have listed : result =
      { records := sorted.take limit
        truncated := limit < sorted.length
        totalMatched := sorted.length } :=
    (models.listStartedWithin_eq bound range limit).trans (lists limit)
  have nothing : (∀ record ∈ monitor.held, range.contains record.startedAt = false) →
      result = {} := by
    intro noneStarted
    have noneMatches : matching = [] :=
      List.filter_eq_nil_iff.mpr fun record member => by simp [noneStarted record member]
    have empty : sorted = [] := (same.trans (.of_eq noneMatches)).eq_nil
    rw [listed, empty]
    simp
  refine ⟨store.listStartedWithin?_eq range limit, store.index.byStart.between?_eq_none_iff,
    range.startKeys.isOrdered_iff_not_refused, ?_, ?_,
    ⟨sorted, same, distinct, inOrder, by rw [listed]⟩, nothing, ?_⟩
  · rw [listed, same.length_eq]
  · rw [listed, ← same.length_eq]
    exact decide_eq_true_iff
  · intro low high lower upper inverted
    apply nothing
    intro record _
    exact Interval.not_contains_of_inverted lower upper inverted record.startedAt

/-- The clock goes back by two after the first start, which lies at the upper end and so is left out; the
two later starts lie between the ends.  Between inverted ends a search is refused, but not the listing. -/
theorem listing_within_exact_of_clock_back :
    let calls : List Call :=
      [.start 7 1 "sh", .moveClock (.advance ⟨Word.size - 2⟩), .start 8 1 "sh", .start 9 1 "sh"]
    let store := ((create {} 5).1.after calls).store
    let inverted : Interval Timestamp := ⟨.inclusive 5, .inclusive 3⟩
    calls.countP Call.isStart < Word.size ∧
      (store.listStartedWithin ⟨.exclusive 2, .exclusive 5⟩ 1).totalMatched = 2 ∧
      (store.listStartedWithin ⟨.exclusive 2, .exclusive 5⟩ 1).truncated = true ∧
      store.index.byStart.between? inverted.startKeys = none ∧
      store.listStartedWithin? inverted 1 = some {} := by
  intro calls store inverted
  have few : calls.countP Call.isStart < Word.size := by decide
  obtain ⟨-, -, -, total, truncated, -⟩ :=
    listing_within_exact {} 5 calls few ⟨.exclusive 2, .exclusive 5⟩ 1
  obtain ⟨answered, refuses, -, -, -, -, -, empty⟩ := listing_within_exact {} 5 calls few inverted 1
  have refused : inverted.startKeys.Refused := ⟨⟨5, 0⟩, ⟨3, Word.top⟩, rfl, rfl, .inl (by decide)⟩
  refine ⟨few, total.trans ?_, truncated.mpr ?_, (refuses inverted.startKeys).mpr refused,
    answered.trans (congrArg some (empty 5 3 rfl rfl (by decide)))⟩
  · decide +kernel
  · decide +kernel

end Monitor

end ProcessWatch
