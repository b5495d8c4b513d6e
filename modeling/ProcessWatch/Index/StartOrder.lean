/-
Module: ProcessWatch.Index.StartOrder
Purpose: The records of a store in the order of their start, and the part of that order between two
  bounds.
Trusted boundary: a search of an ordered set is refused exactly if Interval.isRefused says so
Main exports: StartKey, StartOrder, Bound, Bound.value?, Interval, Interval.isOrdered,
  Interval.isRefused, StartOrder.between?, StartOrder.within?, StartOrder.isSome_within?

An ordered set refuses to be searched between ends that are out of order: the search does not come back
with nothing, it does not come back.  So the ends are compared before each search, and what is shown here
is that no search is refused for that reason any more.
-/
import ProcessWatch.Record
import Std.Data.TreeSet

namespace ProcessWatch

/-- Where a record stands in the order of starts. -/
structure StartKey where
  startedAt : Timestamp
  id : RecordId
deriving DecidableEq, Repr, Inhabited

/-- Earlier starts come first, and of equal starts the smaller record number. -/
def StartKey.order (first second : StartKey) : Ordering :=
  compareLex (compareOn StartKey.startedAt) (compareOn StartKey.id) first second

instance : Std.TransCmp StartKey.order :=
  inferInstanceAs (Std.TransCmp (compareLex (compareOn StartKey.startedAt) (compareOn StartKey.id)))

instance : Std.LawfulEqCmp StartKey.order where
  eq_of_compare {first second} same := by
    simp only [StartKey.order, compareLex_eq_eq, compareOn, Nat.compare_eq_eq] at same
    cases first
    cases second
    simp_all
  compare_self {key} := by simp [StartKey.order, compareLex, compareOn]

/-- A set of start keys, kept in their order. -/
abbrev StartOrder := Std.TreeSet StartKey StartKey.order

/-- One end of an interval. -/
inductive Bound (α : Type) where
  | unbounded
  | inclusive (value : α)
  | exclusive (value : α)
deriving DecidableEq, Repr, Inhabited

/-- The value at an end. -/
def Bound.value? {α : Type} : Bound α → Option α
  | .unbounded => none
  | .inclusive value => some value
  | .exclusive value => some value

/-- The values between a lower and an upper end. -/
structure Interval (α : Type) where
  lower : Bound α := .unbounded
  upper : Bound α := .unbounded
deriving DecidableEq, Repr, Inhabited

namespace Interval

/-- The ends are in order: the lower one does not lie above the upper one, and two ends that
exclude their values do not meet. -/
def isOrdered (range : Interval StartKey) : Bool :=
  match range.lower, range.upper with
  | .unbounded, _ => true
  | _, .unbounded => true
  | .exclusive low, .exclusive high => StartKey.order low high = .lt
  | .exclusive low, .inclusive high => StartKey.order low high ≠ .gt
  | .inclusive low, .exclusive high => StartKey.order low high ≠ .gt
  | .inclusive low, .inclusive high => StartKey.order low high ≠ .gt

/-- A search between the ends is refused: the lower one lies above the upper one, or they are one key
that both of them exclude. -/
def isRefused (range : Interval StartKey) : Bool :=
  match range.lower.value?, range.upper.value? with
  | some low, some high =>
      StartKey.order low high = .gt ||
        (low = high && range.lower = .exclusive low && range.upper = .exclusive high)
  | _, _ => false

/-- The key lies below every value of the interval. -/
def isAfter (range : Interval StartKey) (key : StartKey) : Bool :=
  match range.lower with
  | .unbounded => false
  | .inclusive low => StartKey.order key low = .lt
  | .exclusive low => StartKey.order key low ≠ .gt

/-- The key does not lie above the interval. -/
def isOpenAt (range : Interval StartKey) (key : StartKey) : Bool :=
  match range.upper with
  | .unbounded => true
  | .inclusive high => StartKey.order key high ≠ .gt
  | .exclusive high => StartKey.order key high = .lt

/-- The interval of keys for an interval of start times.  The record numbers at its ends are the
least and the greatest one, so that all records of one start time lie on one side of an end. -/
def startKeys (range : Interval Timestamp) : Interval StartKey where
  lower :=
    match range.lower with
    | .unbounded => .unbounded
    | .inclusive time => .inclusive ⟨time, 0⟩
    | .exclusive time => .exclusive ⟨time, Word.top⟩
  upper :=
    match range.upper with
    | .unbounded => .unbounded
    | .inclusive time => .inclusive ⟨time, Word.top⟩
    | .exclusive time => .exclusive ⟨time, 0⟩

/-- The time lies in the interval. -/
def contains (range : Interval Timestamp) (time : Timestamp) : Bool :=
  (match range.lower with
    | .unbounded => true
    | .inclusive low => low ≤ time
    | .exclusive low => low < time) &&
  (match range.upper with
    | .unbounded => true
    | .inclusive high => time ≤ high
    | .exclusive high => time < high)

end Interval

namespace StartOrder

/-- Search an ordered set for the keys of an interval.  A search that is refused has no answer. -/
def between? (keys : StartOrder) (range : Interval StartKey) : Option (List StartKey) :=
  if range.isRefused then
    none
  else
    some ((keys.toList.dropWhile range.isAfter).takeWhile range.isOpenAt)

/-- The keys of the starts within an interval.  Between ends out of order nothing is searched for. -/
def within? (keys : StartOrder) (range : Interval Timestamp) : Option (List StartKey) :=
  if range.startKeys.isOrdered then keys.between? range.startKeys else some []

end StartOrder

/-! ## No search is refused -/

theorem StartKey.not_order_lt_iff {low high : StartKey} :
    ¬order low high = .lt ↔ order low high = .gt ∨ low = high := by
  have equal : order low high = .eq ↔ low = high := Std.LawfulEqCmp.compare_eq_iff_eq
  rw [← equal]
  cases order low high <;> simp

/-- The ends are in order exactly if a search between them is not refused. -/
theorem Interval.isRefused_eq_not_isOrdered (range : Interval StartKey) :
    range.isRefused = !range.isOrdered := by
  obtain ⟨lower, upper⟩ := range
  rw [Bool.eq_iff_iff]
  cases lower <;> cases upper <;>
    simp [isOrdered, isRefused, Bound.value?, StartKey.not_order_lt_iff]

/-- Looking for the starts within an interval always comes back. -/
theorem StartOrder.isSome_within? (keys : StartOrder) (range : Interval Timestamp) :
    (keys.within? range).isSome = true := by
  rw [within?, between?, Interval.isRefused_eq_not_isOrdered]
  cases range.startKeys.isOrdered <;> rfl

end ProcessWatch
