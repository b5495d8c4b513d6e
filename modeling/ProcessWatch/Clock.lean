/-
Module: ProcessWatch.Clock
Purpose: Spans of time and the hand-driven clock that records are stamped by.
Trusted boundary: readings come from a clock that is moved by hand; it can be made to show any word
Main exports: Timestamp, Duration, Clock, Clock.advance, Clock.set
-/
import ProcessWatch.Word

namespace ProcessWatch

/-- Nanoseconds since the clock's origin. -/
abbrev Timestamp := Nat

/-- Nanoseconds in a second. -/
def nanosPerSecond : Nat := 1000000000

/-- A span of time. -/
structure Duration where
  totalNanos : Nat
deriving DecidableEq, Repr, Inhabited

namespace Duration

/-- The span of some seconds and nanoseconds; a second's worth of nanoseconds counts as one. -/
def ofParts (seconds nanos : Nat) : Duration := ⟨seconds * nanosPerSecond + nanos⟩

/-- The whole seconds of a span. -/
def seconds (span : Duration) : Nat := span.totalNanos / nanosPerSecond

/-- The nanoseconds of a span beyond its whole seconds. -/
def nanos (span : Duration) : Nat := span.totalNanos % nanosPerSecond

/-- The whole milliseconds of a span. -/
def milliseconds (span : Duration) : Nat := span.totalNanos / 1000000

@[simp] theorem ofParts_seconds_nanos (span : Duration) :
    ofParts span.seconds span.nanos = span := by
  simp only [ofParts, seconds, nanos, Nat.div_add_mod']

end Duration

/-- A clock that moves only when it is told to. -/
structure Clock where
  now : Timestamp := 0
deriving DecidableEq, Repr, Inhabited

namespace Clock

/-- Move the clock by a span.  The reading is one word, and a move past its top comes round to
zero. -/
def advance (clock : Clock) (span : Duration) : Clock :=
  ⟨Word.wrap (clock.now + span.totalNanos)⟩

/-- Put the clock to a time, unless that lies behind it. -/
def set (clock : Clock) (time : Timestamp) : Clock :=
  ⟨max clock.now time⟩

theorem now_advance_lt (clock : Clock) (span : Duration) : (clock.advance span).now < Word.size :=
  Word.wrap_lt _

/-- Short of the top of a word, a move adds its span. -/
theorem now_advance_of_lt {clock : Clock} {span : Duration}
    (small : clock.now + span.totalNanos < Word.size) :
    (clock.advance span).now = clock.now + span.totalNanos :=
  Word.wrap_of_lt small

theorem now_le_now_set (clock : Clock) (time : Timestamp) : clock.now ≤ (clock.set time).now :=
  Nat.le_max_left _ _

/-- One move of the clock. -/
inductive Move where
  | advance (span : Duration)
  | set (time : Timestamp)
deriving DecidableEq, Repr

/-- The clock after one move. -/
def move (clock : Clock) : Move → Clock
  | .advance span => clock.advance span
  | .set time => clock.set time

/-- The readings after each of some moves. -/
def readings (clock : Clock) : List Move → List Timestamp
  | [] => []
  | step :: steps => (clock.move step).now :: (clock.move step).readings steps

end Clock

end ProcessWatch
