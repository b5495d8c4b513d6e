/-
Module: ProcessWatch.Proofs.Index.StartOrder
Purpose: The part of the start order between two bounds holds exactly the records that started
  between them, earlier starts first.
Trusted boundary: none
Main exports: StartOrder.within?_eq, Index.Coherent.map_record_startedWithin,
  Index.Coherent.map_record_startedWithin_congr
-/
import ProcessWatch.Proofs.Index.Records
import Mathlib.Data.List.Nodup

namespace ProcessWatch

namespace StartKey

/-- A key comes before another one if its start is earlier, or is the same and its number is less. -/
theorem order_eq_lt_iff {first second : StartKey} :
    order first second = .lt ↔
      first.startedAt < second.startedAt ∨
        first.startedAt = second.startedAt ∧ first.id < second.id := by
  rw [order, compareLex, compareOn, compareOn, Ordering.then_eq_lt, Nat.compare_eq_lt,
    Nat.compare_eq_eq, Nat.compare_eq_lt]

theorem order_ne_gt_iff {first second : StartKey} :
    order first second ≠ .gt ↔
      first.startedAt < second.startedAt ∨
        first.startedAt = second.startedAt ∧ first.id ≤ second.id := by
  rw [ne_eq, order, compareLex, compareOn, compareOn, Ordering.then_eq_gt, Nat.compare_eq_gt,
    Nat.compare_eq_eq, Nat.compare_eq_gt]
  grind

end StartKey

theorem Record.startsNoLater_iff {first second : Record} :
    first.startsNoLater second = true ↔
      first.startedAt < second.startedAt ∨
        first.startedAt = second.startedAt ∧ first.id ≤ second.id := by
  rw [startsNoLater, decide_eq_true_eq, StartKey.order_ne_gt_iff]
  rfl

/-- Records in the order of starts never start earlier than those before them. -/
theorem Records.pairwise_inStartOrder (records : List Record) :
    (inStartOrder records).Pairwise fun first second => first.startsNoLater second := by
  apply List.pairwise_mergeSort
  · intro first second third
    simp only [Record.startsNoLater_iff]
    grind
  · intro first second
    simp only [Bool.or_eq_true, Record.startsNoLater_iff]
    grind

namespace Interval

variable (range : Interval Timestamp)

/-- Between the bounds in the start order lies what started between the bounds, if no record number
passes the top of a word. -/
theorem between_iff_contains {key : StartKey} (small : key.id ≤ Word.top) :
    (range.startKeys.isAfter key = false ∧ range.startKeys.isOpenAt key = true) ↔
      range.contains key.startedAt = true := by
  obtain ⟨lower, upper⟩ := range
  have least := Nat.zero_le key.id
  cases lower <;> cases upper <;>
    simp only [startKeys, isAfter, isOpenAt, contains, decide_eq_false_iff_not, decide_eq_true_eq,
      StartKey.order_eq_lt_iff, StartKey.order_ne_gt_iff, Bool.and_eq_true, true_and, and_true] <;>
    grind

/-- Between bounds out of order nothing starts. -/
theorem not_contains_of_not_isOrdered (inverted : range.startKeys.isOrdered = false)
    (time : Timestamp) : range.contains time = false := by
  obtain ⟨lower, upper⟩ := range
  cases lower <;> cases upper <;>
    simp only [startKeys, isOrdered, contains, decide_eq_false_iff_not, StartKey.order_eq_lt_iff,
      StartKey.order_ne_gt_iff, Bool.and_eq_false_iff, reduceCtorEq] at inverted ⊢ <;>
    grind

/-- What lies below all values of an interval is an early part of the order. -/
theorem isAfter_of_le {range : Interval StartKey} {first second : StartKey}
    (le : StartKey.order first second = .lt) (below : range.isAfter second = true) :
    range.isAfter first = true := by
  obtain ⟨lower, upper⟩ := range
  cases lower <;>
    simp only [isAfter, decide_eq_true_eq, StartKey.order_eq_lt_iff, StartKey.order_ne_gt_iff,
      reduceCtorEq] at le below ⊢ <;>
    grind

/-- What does not lie above an interval is an early part of the order, too. -/
theorem isOpenAt_of_le {range : Interval StartKey} {first second : StartKey}
    (le : StartKey.order first second = .lt) (inside : range.isOpenAt second = true) :
    range.isOpenAt first = true := by
  obtain ⟨lower, upper⟩ := range
  cases upper <;>
    simp only [isOpenAt, decide_eq_true_eq, StartKey.order_eq_lt_iff, StartKey.order_ne_gt_iff]
      at le inside ⊢ <;>
    grind

end Interval

section Prefix

variable {α : Type} {p : α → Bool} {items : List α}

/-- What is taken from the front is all that fits, if that is an early part of the list. -/
theorem takeWhile_eq_filter (early : items.Pairwise fun first second => p second → p first) :
    items.takeWhile p = items.filter p := by
  induction items with
  | nil => rfl
  | cons first items inductionHypothesis =>
      obtain ⟨above, later⟩ := List.pairwise_cons.mp early
      rw [List.takeWhile_cons, List.filter_cons]
      split
      · rw [inductionHypothesis later]
      case isFalse stops =>
        refine (List.filter_eq_nil_iff.mpr fun item member holds => ?_).symm
        exact stops (above item member holds)

/-- What is dropped from the front is all that fits, if that is an early part of the list. -/
theorem dropWhile_eq_filter (early : items.Pairwise fun first second => p second → p first) :
    items.dropWhile p = items.filter fun item => !p item := by
  induction items with
  | nil => rfl
  | cons first items inductionHypothesis =>
      obtain ⟨above, later⟩ := List.pairwise_cons.mp early
      rw [List.dropWhile_cons, List.filter_cons]
      split
      case isTrue holds => simp [holds, inductionHypothesis later]
      case isFalse stops =>
        have all : items.filter (fun item => !p item) = items :=
          List.filter_eq_self.mpr fun item member => by
            simpa using fun holds => stops (above item member holds)
        simp [stops, all]

end Prefix

theorem StartOrder.ordered (keys : StartOrder) :
    keys.toList.Pairwise fun first second => StartKey.order first second = .lt :=
  Std.TreeSet.ordered_toList

/-- Between ends that are in order a search has an answer. -/
theorem StartOrder.between?_of_isOrdered (keys : StartOrder) {range : Interval StartKey}
    (ordered : range.isOrdered = true) :
    keys.between? range = some ((keys.toList.dropWhile range.isAfter).takeWhile range.isOpenAt) := by
  rw [between?, Interval.isRefused_eq_not_isOrdered, ordered, Bool.not_true,
    if_neg Bool.false_ne_true]

/-- What is found between two bounds are the keys of all starts between them. -/
theorem StartOrder.within?_eq {keys : StartOrder} (small : ∀ key ∈ keys, key.id ≤ Word.top)
    (range : Interval Timestamp) :
    keys.within? range = some (keys.toList.filter fun key => range.contains key.startedAt) := by
  rw [within?]
  by_cases ordered : range.startKeys.isOrdered = true
  · rw [if_pos ordered, keys.between?_of_isOrdered ordered,
      dropWhile_eq_filter (keys.ordered.imp Interval.isAfter_of_le),
      takeWhile_eq_filter ((keys.ordered.imp Interval.isOpenAt_of_le).filter _), List.filter_filter]
    refine congrArg some (List.filter_congr fun key member => ?_)
    have between := range.between_iff_contains (small key (Std.TreeSet.mem_toList.mp member))
    rw [Bool.eq_iff_iff, ← between, Bool.and_eq_true, Bool.not_eq_true', and_comm]
  · rw [if_neg ordered]
    refine congrArg some (List.filter_eq_nil_iff.mpr fun key _ => ?_).symm
    rw [range.not_contains_of_not_isOrdered (by simpa using ordered)]
    exact Bool.false_ne_true

/-- Only keys of the set are found, however high their numbers are. -/
theorem StartOrder.subset_of_within? {keys : StartOrder} {range : Interval Timestamp}
    {found : List StartKey} (searched : keys.within? range = some found) : found ⊆ keys.toList := by
  rw [within?] at searched
  split at searched
  · rename_i ordered
    rw [keys.between?_of_isOrdered ordered] at searched
    obtain rfl := Option.some.inj searched
    exact ((List.takeWhile_sublist _).trans (List.dropWhile_sublist _)).subset
  · obtain rfl := Option.some.inj searched
    exact List.nil_subset _

/-- The entries within an interval are those that the keys lead to which the search finds. -/
theorem Index.startedWithin_eq {index : Index} {range : Interval Timestamp} {keys : List StartKey}
    (searched : index.byStart.within? range = some keys) :
    index.startedWithin range = index.entries (keys.map StartKey.id) := by
  have answered : index.startedWithin? range = some (index.entries (keys.map StartKey.id)) := by
    rw [startedWithin?, searched, Option.map_some]
  exact Option.get_of_eq_some _ answered

namespace Index.Coherent

variable {index : Index}

/-- A key of the start order is the one of the record with its number. -/
theorem startKey_recordAt (coherent : index.Coherent) {key : StartKey}
    (member : key ∈ index.byStart.toList) :
    key.id ∈ index.recency ∧ (recordAt index.arena key.id).startKey = key := by
  obtain ⟨entry, found, startedAt⟩ := (coherent.starts key).mp (Std.TreeSet.mem_toList.mp member)
  constructor
  · exact (coherent.held _).mp (Std.TreeMap.mem_iff_isSome_getElem?.mpr (by simp [found]))
  · rw [recordAt_of_find? found, Record.startKey, startedAt, coherent.own _ _ found]

/-- The start order leads to each record once. -/
theorem byStart_perm (coherent : index.Coherent) :
    (index.byStart.toList.map fun key => recordAt index.arena key.id).Perm index.records := by
  have nodup : (index.byStart.toList.map StartKey.id).Nodup := by
    refine List.Nodup.map_on ?_ (Std.TreeSet.distinct_toList.imp Std.ReflCmp.ne_of_cmp_ne_eq)
    intro first firstMember second secondMember same
    rw [← (coherent.startKey_recordAt firstMember).2, same,
      (coherent.startKey_recordAt secondMember).2]
  have ids : (index.byStart.toList.map StartKey.id).Perm index.recency := by
    apply (List.perm_ext_iff_of_nodup nodup coherent.nodup).mpr
    intro id
    rw [List.mem_map]
    constructor
    · intro listed
      rcases listed with ⟨key, member, rfl⟩
      exact (coherent.startKey_recordAt member).1
    · intro member
      obtain ⟨entry, found, -⟩ := coherent.exists_entry member
      refine ⟨⟨entry.record.startedAt, id⟩, ?_, rfl⟩
      exact Std.TreeSet.mem_toList.mpr ((coherent.starts _).mpr ⟨entry, found, rfl⟩)
  have mapped := ids.map (recordAt index.arena)
  rwa [List.map_map, ← coherent.records_eq] at mapped

/-- Records that stand at the same place in the order of starts are the same. -/
theorem eq_of_startsNoLater (coherent : index.Coherent) {first second : Record}
    (firstMember : first ∈ index.records) (secondMember : second ∈ index.records)
    (notLater : first.startsNoLater second) (notEarlier : second.startsNoLater first) :
    first = second := by
  rw [coherent.records_eq] at firstMember secondMember
  obtain ⟨firstId, firstInside, rfl⟩ := List.mem_map.mp firstMember
  obtain ⟨secondId, secondInside, rfl⟩ := List.mem_map.mp secondMember
  rw [Record.startsNoLater_iff, coherent.id_recordAt firstInside,
    coherent.id_recordAt secondInside] at notLater notEarlier
  have ids : firstId = secondId := by grind
  rw [ids]

/-! ## The records between two bounds -/

section Within

variable (range : Interval Timestamp)

/-- The records between two bounds are those that the keys between them lead to. -/
theorem map_record_startedWithin_eq_map_recordAt (coherent : index.Coherent)
    (few : index.nextId ≤ Word.size) :
    (index.startedWithin range).map Entry.record =
      (index.byStart.toList.filter fun key => range.contains key.startedAt).map
        fun key => recordAt index.arena key.id := by
  have small : ∀ key ∈ index.byStart, key.id ≤ Word.top := by
    intro key member
    obtain ⟨entry, found, -⟩ := (coherent.starts key).mp member
    exact Nat.le_sub_one_of_lt (Nat.lt_of_lt_of_le (coherent.lt_nextId found) few)
  rw [Index.startedWithin_eq (StartOrder.within?_eq small range), map_record_entries, List.map_map]
  · rfl
  · intro id member
    obtain ⟨key, inside, rfl⟩ := List.mem_map.mp member
    exact (coherent.held _).mpr (coherent.startKey_recordAt (List.mem_of_mem_filter inside)).1

/-- The keys between two bounds lead to the records that started there, each once. -/
theorem map_recordAt_filter_perm (coherent : index.Coherent) :
    ((index.byStart.toList.filter fun key => range.contains key.startedAt).map
        fun key => recordAt index.arena key.id).Perm
      (index.records.filter fun record => range.contains record.startedAt) := by
  have filtered := coherent.byStart_perm.filter fun record => range.contains record.startedAt
  rw [List.filter_map] at filtered
  have same : (index.byStart.toList.filter
      ((fun record => range.contains record.startedAt) ∘
        fun key => recordAt index.arena key.id)) =
      index.byStart.toList.filter fun key => range.contains key.startedAt := by
    apply List.filter_congr
    intro key member
    have startedAt := congrArg StartKey.startedAt (coherent.startKey_recordAt member).2
    exact congrArg range.contains startedAt
  rwa [same] at filtered

/-- They lead to them in the order of their starts. -/
theorem pairwise_map_recordAt_filter (coherent : index.Coherent) :
    ((index.byStart.toList.filter fun key => range.contains key.startedAt).map
        fun key => recordAt index.arena key.id).Pairwise
      fun first second => first.startsNoLater second := by
  refine List.pairwise_map.mpr (List.Pairwise.imp_of_mem ?_ (index.byStart.ordered.filter _))
  intro first second firstMember secondMember before
  rw [Record.startsNoLater,
    (coherent.startKey_recordAt (List.mem_of_mem_filter firstMember)).2,
    (coherent.startKey_recordAt (List.mem_of_mem_filter secondMember)).2, before]
  rfl

/-- The records between two bounds are those that started there, earlier starts first. -/
theorem map_record_startedWithin (coherent : index.Coherent) (few : index.nextId ≤ Word.size) :
    (index.startedWithin range).map Entry.record =
      Records.inStartOrder (index.records.filter fun record => range.contains record.startedAt) := by
  have perm := coherent.map_recordAt_filter_perm range
  rw [coherent.map_record_startedWithin_eq_map_recordAt range few]
  apply List.Perm.eq_of_pairwise ?_ (coherent.pairwise_map_recordAt_filter range)
    (Records.pairwise_inStartOrder _) (perm.trans (List.mergeSort_perm _ _).symm)
  intro first second firstMember secondMember notLater notEarlier
  have firstHeld := List.mem_of_mem_filter (perm.mem_iff.mp firstMember)
  have secondHeld := List.mem_of_mem_filter (List.mem_mergeSort.mp secondMember)
  exact coherent.eq_of_startsNoLater firstHeld secondHeld notLater notEarlier

end Within

/-! ## Indexes of the same records -/

/-- The start order holds the keys of the records and no others. -/
theorem mem_byStart_iff (coherent : index.Coherent) {key : StartKey} :
    key ∈ index.byStart ↔ ∃ record ∈ index.records, record.startKey = key := by
  rw [coherent.records_eq]
  constructor
  · intro member
    obtain ⟨inside, own⟩ := coherent.startKey_recordAt (Std.TreeSet.mem_toList.mpr member)
    exact ⟨recordAt index.arena key.id, List.mem_map_of_mem inside, own⟩
  · intro listed
    obtain ⟨record, member, rfl⟩ := listed
    obtain ⟨id, inside, rfl⟩ := List.mem_map.mp member
    obtain ⟨entry, found, own⟩ := coherent.exists_entry inside
    rw [recordAt_of_find? found]
    refine (coherent.starts _).mpr ⟨entry, ?_, rfl⟩
    rw [Record.startKey, own]
    exact found

/-- The records between two bounds depend on nothing but the records, however high their numbers
are. -/
theorem map_record_startedWithin_congr {first second : Index} (one : first.Coherent)
    (two : second.Coherent) (same : first.records = second.records)
    (range : Interval Timestamp) :
    (first.startedWithin range).map Entry.record =
      (second.startedWithin range).map Entry.record := by
  have recency : first.recency = second.recency := by
    rw [← one.map_id_records, ← two.map_id_records, same]
  have recordAt_eq : ∀ id ∈ first.recency, recordAt first.arena id = recordAt second.arena id := by
    apply List.map_inj_left.mp
    rw [← one.records_eq, same, two.records_eq, recency]
  have keys : first.byStart.toList = second.byStart.toList := by
    apply Std.TreeSet.equiv_iff_toList_eq.mp
    apply Std.TreeSet.Equiv.of_forall_mem_iff
    intro key
    rw [one.mem_byStart_iff, two.mem_byStart_iff, same]
  obtain ⟨found, searched⟩ := Option.isSome_iff_exists.mp (first.byStart.isSome_within? range)
  have searchedToo : second.byStart.within? range = some found := by
    rw [← searched]
    simp only [StartOrder.within?, StartOrder.between?, keys]
  have inside : ∀ id ∈ found.map StartKey.id, id ∈ first.recency := by
    intro id listed
    obtain ⟨key, between, rfl⟩ := List.mem_map.mp listed
    exact (one.startKey_recordAt (StartOrder.subset_of_within? searched between)).1
  calc (first.startedWithin range).map Entry.record
    _ = (found.map StartKey.id).map (recordAt first.arena) := by
        rw [Index.startedWithin_eq searched]
        exact map_record_entries fun id listed => (one.held id).mpr (inside id listed)
    _ = (found.map StartKey.id).map (recordAt second.arena) :=
        List.map_inj_left.mpr fun id listed => recordAt_eq id (inside id listed)
    _ = (second.startedWithin range).map Entry.record := by
        rw [Index.startedWithin_eq searchedToo]
        apply Eq.symm
        apply map_record_entries
        intro id listed
        exact (two.held id).mpr (recency ▸ inside id listed)

end Index.Coherent

end ProcessWatch
