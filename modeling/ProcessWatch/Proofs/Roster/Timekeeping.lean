/-
Module: ProcessWatch.Proofs.Roster.Timekeeping
Purpose: When the readings of a clock go back, and that the uptime of a store and the starts of its
  records keep their order as long as the clock does not.
Trusted boundary: calls meet enough memory, for which Proofs.Roster.Memory gives a condition
Main exports: Clock.Overruns, Clock.Forward, Clock.pairwise_readings_iff, Monitor.uptimes,
  Roster.Precedes, Monitor.forward_until_overrun, Monitor.backward_past_top

A reading is one word.  A move that takes it past the top of the word comes round to zero, and so the
clock goes back; at every other move it does not.
-/
import ProcessWatch.Proofs.Roster.Lifetime

namespace ProcessWatch

/-! ## Moves of a clock -/

namespace Clock

/-- The move takes the reading past the top of a word.  Whole turns of the word make no difference. -/
def Overruns (clock : Clock) : Move → Prop
  | .advance span => Word.size ≤ clock.now + Word.wrap span.totalNanos
  | .set _ => False

/-- None of the moves overruns when they are made one after the other. -/
def Forward (clock : Clock) : List Move → Prop
  | [] => True
  | move :: moves => ¬ clock.Overruns move ∧ (clock.move move).Forward moves

theorem now_le_now_move_iff (clock : Clock) (move : Move) :
    clock.now ≤ (clock.move move).now ↔ ¬ clock.Overruns move := by
  cases move with
  | set time =>
      simp only [Overruns, not_false_eq_true, iff_true]
      exact clock.now_le_now_set time
  | advance span =>
      exact Word.le_wrap_add_iff.trans Nat.not_le.symm

theorem isChain_readings_iff (clock : Clock) (moves : List Move) :
    (clock.now :: clock.readings moves).IsChain (· ≤ ·) ↔ clock.Forward moves := by
  induction moves generalizing clock with
  | nil => simp [readings, Forward]
  | cons move moves inductionHypothesis =>
      simp only [readings, Forward, List.isChain_cons_cons, now_le_now_move_iff,
        inductionHypothesis]

/-- No reading is below an earlier one exactly if no move overruns. -/
theorem pairwise_readings_iff (clock : Clock) (moves : List Move) :
    (clock.now :: clock.readings moves).Pairwise (· ≤ ·) ↔ clock.Forward moves :=
  List.isChain_iff_pairwise.symm.trans (clock.isChain_readings_iff moves)

end Clock

/-! ## Moves among calls -/

namespace Monitor

/-- The move of the clock that a call makes. -/
def Call.clockMove? : Call → Option Clock.Move
  | .moveClock move => some move
  | _ => none

/-- The moves of the clock that some calls make. -/
def clockMoves (calls : List Call) : List Clock.Move := calls.filterMap Call.clockMove?

/-- The uptime that an answer tells, in nanoseconds. -/
def Answer.uptime? : Answer → Option Nat
  | .snapshot view => some view.uptime.totalNanos
  | _ => none

/-- The uptimes that the snapshots among some calls tell. -/
def uptimes (monitor : Monitor) (calls : List Call) : List Nat :=
  (monitor.answers calls).filterMap Answer.uptime?

theorem uptimes_cons (monitor : Monitor) (call : Call) (calls : List Call) :
    monitor.uptimes (call :: calls) =
      (monitor.perform call).answer.uptime?.toList ++ (monitor.undergo call.change).uptimes calls := by
  simp only [uptimes, answers_cons, List.filterMap_cons]
  cases (monitor.perform call).answer.uptime? <;> rfl

end Monitor

namespace Roster

open Monitor (Call Change clockMoves)

variable {roster : Roster} {monitor : Monitor}

theorem clock_undergo_call (roster : Roster) (call : Call) :
    (roster.undergo call.change).clock = call.clockMove?.elim roster.clock roster.clock.move := by
  cases call with
  | start pid parent name => exact clock_start _ _ _ _
  | exit pid code usage => exact clock_exit _ _ _ _
  | deliver event =>
      cases event with
      | start pid parent name => exact clock_start _ _ _ _
      | exit pid code usage => exact clock_exit _ _ _ _
  | obey order => cases order <;> rfl
  | _ => rfl

/-- A call leaves the clock where it is or moves it on, and the later calls move it on from there. -/
theorem forward_cons {call : Call} {calls : List Call}
    (forward : roster.clock.Forward (clockMoves (call :: calls))) :
    roster.clock.now ≤ (roster.undergo call.change).clock.now ∧
      (roster.undergo call.change).clock.Forward (clockMoves calls) := by
  simp only [clockMoves, List.filterMap_cons] at forward
  rw [clock_undergo_call]
  cases moved : call.clockMove? with
  | none =>
      rw [moved] at forward
      exact ⟨Nat.le_refl _, forward⟩
  | some move =>
      rw [moved] at forward
      exact ⟨(roster.clock.now_le_now_move_iff move).mpr forward.1, forward.2⟩

theorem forward_append {early late : List Call}
    (forward : roster.clock.Forward (clockMoves (early ++ late))) :
    roster.clock.Forward (clockMoves early) ∧
      (roster.after early).clock.Forward (clockMoves late) := by
  induction early generalizing roster with
  | nil => exact ⟨trivial, forward⟩
  | cons call early inductionHypothesis =>
      obtain ⟨-, later⟩ := forward_cons forward
      rw [after_cons]
      obtain ⟨front, back⟩ := inductionHypothesis later
      refine ⟨?_, back⟩
      simp only [clockMoves, List.cons_append, List.filterMap_cons] at forward ⊢
      rw [clock_undergo_call] at front
      cases moved : call.clockMove? with
      | none =>
          rw [moved] at front
          exact front
      | some move =>
          rw [moved] at forward front
          exact ⟨forward.1, front⟩

/-! ## Uptimes -/

theorem Pictures.uptime?_answer (pictures : roster.Pictures monitor) (call : Call) :
    ∀ uptime ∈ (monitor.perform call).answer.uptime?,
      uptime = roster.clock.now - roster.origin := by
  intro uptime told
  cases call with
  | snapshot =>
      have same := pictures.answer_of_bound .snapshot fun _ _ within => nomatch within
      rw [same] at told
      exact (Option.some.inj told).symm
  | _ => cases told

/-- The present uptime and those told later never fall. -/
theorem Pictures.pairwise_uptimes (pictures : roster.Pictures monitor) {calls : List Call}
    (forward : roster.clock.Forward (clockMoves calls)) :
    ((roster.clock.now - roster.origin) :: monitor.uptimes calls).Pairwise (· ≤ ·) := by
  induction calls generalizing roster monitor with
  | nil => exact List.pairwise_singleton _ _
  | cons call calls inductionHypothesis =>
      obtain ⟨onward, later⟩ := forward_cons forward
      have rest := inductionHypothesis (pictures.undergo call.change) later
      rw [origin_undergo] at rest
      obtain ⟨above, ordered⟩ := List.pairwise_cons.mp rest
      have first : ∀ uptime ∈ (monitor.undergo call.change).uptimes calls,
          roster.clock.now - roster.origin ≤ uptime := by
        intro uptime member
        exact Nat.le_trans (Nat.sub_le_sub_right onward _) (above uptime member)
      rw [Monitor.uptimes_cons]
      cases told : (monitor.perform call).answer.uptime? with
      | none => exact List.pairwise_cons.mpr ⟨first, ordered⟩
      | some uptime =>
          obtain rfl := pictures.uptime?_answer call uptime told
          exact List.pairwise_cons.mpr
            ⟨List.forall_mem_cons.mpr ⟨Nat.le_refl _, first⟩, List.pairwise_cons.mpr ⟨first, ordered⟩⟩

/-! ## Starts -/

/-- The record did not start after the present reading, nor after any record with a higher number. -/
structure Precedes (roster : Roster) (old : Record) : Prop where
  past : old.startedAt ≤ roster.clock.now
  before : ∀ new ∈ roster.records, old.id < new.id → old.startedAt ≤ new.startedAt

variable {old record : Record} {change : Change}

/-- It makes no difference whether the record is still held. -/
theorem Precedes.undergo (precedes : roster.Precedes old)
    (onward : roster.clock.now ≤ (roster.undergo change).clock.now) :
    (roster.undergo change).Precedes old where
  past := Nat.le_trans precedes.past onward
  before := by
    intro new member below
    cases arises_of_mem_undergo member with
    | kept held => exact precedes.before new held below
    | started pid parent name => exact precedes.past
    | @ended pid running last code usage =>
        exact precedes.before running (Records.runsAs_of_lastRunning? last).1 below

theorem Arises.precedes (arises : roster.Arises change record) (numbered : roster.Numbered)
    (onward : roster.clock.now ≤ (roster.undergo change).clock.now)
    (all : ∀ old ∈ roster.records, roster.Precedes old) :
    (roster.undergo change).Precedes record := by
  cases arises with
  | kept held => exact (all record held).undergo onward
  | started pid parent name =>
      constructor
      case past => exact onward
      case before =>
        intro new member above
        rcases mem_ids_undergo (List.mem_map_of_mem member) with held | next
        · obtain ⟨other, inside, same⟩ := List.mem_map.mp held
          have below : new.id < roster.nextId := same ▸ numbered.below other inside
          exact absurd above (Nat.lt_asymm below)
        · exact absurd next.symm (Nat.ne_of_lt above)
  | @ended pid running last code usage =>
      have held := (Records.runsAs_of_lastRunning? last).1
      have same := (all running held).undergo onward
      exact ⟨same.past, same.before⟩

theorem Precedes.after (precedes : roster.Precedes old) {calls : List Call}
    (forward : roster.clock.Forward (clockMoves calls)) : (roster.after calls).Precedes old := by
  induction calls generalizing roster with
  | nil => exact precedes
  | cons call calls inductionHypothesis =>
      obtain ⟨onward, later⟩ := forward_cons forward
      rw [after_cons]
      exact inductionHypothesis (precedes.undergo onward) later

theorem Pictures.precedes_after (pictures : roster.Pictures monitor) {calls : List Call}
    (forward : roster.clock.Forward (clockMoves calls))
    (all : ∀ old ∈ roster.records, roster.Precedes old) :
    ∀ old ∈ (roster.after calls).records, (roster.after calls).Precedes old := by
  induction calls generalizing roster monitor with
  | nil => exact all
  | cons call calls inductionHypothesis =>
      obtain ⟨onward, later⟩ := forward_cons forward
      rw [after_cons]
      apply inductionHypothesis (pictures.undergo call.change) later
      intro old member
      exact (arises_of_mem_undergo member).precedes pictures.models.numbered onward all

end Roster

/-! ## A monitor from its start -/

namespace Monitor

/-- The readings of a clock fall only where a move overruns.  Until then the uptime of a monitor never
falls from one snapshot to a later one, and of two records the one with the higher number did not start
earlier, even if the other is held no longer. -/
theorem forward_until_overrun (options : Store.Options) (time : Timestamp)
    (early late : List Call) :
    let monitor := (create options time).1
    (∀ (clock : Clock) (moves : List Clock.Move),
      (clock.now :: clock.readings moves).Pairwise (· ≤ ·) ↔ clock.Forward moves) ∧
      (monitor.clock.Forward (clockMoves (early ++ late)) →
        (monitor.uptimes (early ++ late)).Pairwise (· ≤ ·) ∧
          ∀ old ∈ (monitor.after early).held, ∀ new ∈ (monitor.after (early ++ late)).held,
            old.id < new.id → old.startedAt ≤ new.startedAt) := by
  intro monitor
  refine ⟨Clock.pairwise_readings_iff, fun forward => ?_⟩
  have start : (Roster.create options time).Pictures monitor := Roster.Pictures.create options time
  have between := start.after early
  rw [← start.clock] at forward
  obtain ⟨front, back⟩ := Roster.forward_append forward
  constructor
  · exact (List.pairwise_cons.mp (start.pairwise_uptimes forward)).2
  · intro old before new after above
    rw [between.held] at before
    rw [after_append, (between.after late).held] at after
    have precedes : ((Roster.create options time).after early).Precedes old :=
      start.precedes_after front (fun old none => nomatch none) old before
    exact (precedes.after back).before new after above

/-- The clock comes to the very top of a word, and the first record is dropped before the second one
starts there. -/
theorem forward_until_overrun_of_top :
    let early : List Call := [.start 7 1 "sh", .snapshot]
    let late : List Call :=
      [.moveClock (.advance ⟨Word.size + 4⟩), .clear, .moveClock (.set Word.top), .start 8 1 "sh",
        .moveClock (.set 3), .snapshot]
    let monitor := (create {} 5).1
    let old := Record.started 1 7 1 (CommandName.ofString "sh") 5
    let new := Record.started 2 8 1 (CommandName.ofString "sh") Word.top
    monitor.clock.Forward (clockMoves (early ++ late)) ∧
      monitor.uptimes (early ++ late) = [0, Word.top - 5] ∧
      (monitor.uptimes (early ++ late)).Pairwise (· ≤ ·) ∧
      (monitor.after early).held = [old] ∧ (monitor.after (early ++ late)).held = [new] ∧
      old.startedAt ≤ new.startedAt := by
  intro early late monitor old new
  have below : ¬ Word.size ≤ 5 + Word.wrap (Word.size + 4) := by decide
  have forward : monitor.clock.Forward (clockMoves (early ++ late)) := ⟨below, id, id, trivial⟩
  obtain ⟨ordered, starts⟩ := (forward_until_overrun {} 5 early late).2 forward
  have before : (monitor.after early).held = [old] := by decide +kernel
  have after : (monitor.after (early ++ late)).held = [new] := by decide +kernel
  have uptimes : monitor.uptimes (early ++ late) = [0, Word.top - 5] := by decide +kernel
  refine ⟨forward, uptimes, ordered, before, after, starts old ?_ new ?_ (by decide)⟩
  · exact before ▸ List.mem_singleton_self old
  · exact after ▸ List.mem_singleton_self new

/-- One nanosecond past the top of a word the clock, the uptime and the start of the next record are
back at zero. -/
theorem backward_past_top :
    let moves : List Clock.Move := [.set Word.top, .advance ⟨1⟩]
    let calls : List Call :=
      [.moveClock (.set Word.top), .snapshot, .start 7 1 "sh", .moveClock (.advance ⟨1⟩), .snapshot,
        .start 8 1 "sh"]
    let monitor := (create {} 0).1
    ({} : Clock).readings moves = [Word.top, 0] ∧
      ¬ (({} : Clock).readings moves).Pairwise (· ≤ ·) ∧
      monitor.uptimes calls = [Word.top, 0] ∧
      ¬ (monitor.uptimes calls).Pairwise (· ≤ ·) ∧
      (monitor.after calls).held.map Record.startedAt = [Word.top, 0] := by
  intro moves calls monitor
  have readings : ({} : Clock).readings moves = [Word.top, 0] := rfl
  have uptimes : monitor.uptimes calls = [Word.top, 0] := by decide +kernel
  have starts : (monitor.after calls).held.map Record.startedAt = [Word.top, 0] := by
    decide +kernel
  refine ⟨readings, ?_, uptimes, ?_, starts⟩
  · rw [readings]
    decide
  · rw [uptimes]
    decide

end Monitor

end ProcessWatch
