/-
Module: ProcessWatch.Proofs.Roster.Average
Purpose: How far the mean lifetime that the counters keep may lie from the true one, and that keeping it
  passes no width.
Trusted boundary: calls meet enough memory, for which Proofs.Roster.Memory gives a condition
Main exports: Statistics.Averages, Statistics.Averages.onExit, Roster.Averages,
  Roster.Averages.undergo, Monitor.average_near_mean

Each exit rounds the mean down, and the next one weighs the rounded mean by the number of exits before
it.  So the exit with number `n` may lose up to `n - 1` nanoseconds of the sum, and these losses add up.
-/
import ProcessWatch.Proofs.Roster.History

namespace ProcessWatch

/-! ## One mean -/

section Weighted

variable {mean count value : Nat}

/-- What bounds the old mean and the new value bounds the new mean. -/
theorem weighted_le {greatest : Nat} (mean_le : mean ≤ greatest) (value_le : value ≤ greatest) :
    mean * count + value ≤ greatest * (count + 1) := by
  rw [Nat.mul_succ]
  exact Nat.add_le_add (Nat.mul_le_mul_right count mean_le) value_le

theorem weighted_div_le {greatest : Nat} (mean_le : mean ≤ greatest) (value_le : value ≤ greatest) :
    (mean * count + value) / (count + 1) ≤ greatest := by
  apply Nat.div_le_of_le_mul
  rw [Nat.mul_comm (count + 1)]
  exact weighted_le mean_le value_le

theorem le_weighted_div {least : Nat} (le_mean : least ≤ mean) (le_value : least ≤ value) :
    least ≤ (mean * count + value) / (count + 1) := by
  rw [Nat.le_div_iff_mul_le (Nat.succ_pos count), Nat.mul_succ]
  exact Nat.add_le_add (Nat.mul_le_mul_right count le_mean) le_value

variable (mean_lt : mean < Word.size) (value_lt : value < Word.size)

include mean_lt value_lt

/-- The mean of words is a word. -/
theorem weighted_div_lt_size : (mean * count + value) / (count + 1) < Word.size := by
  have bounded := @weighted_div_le mean count value Word.top (Nat.le_sub_one_of_lt mean_lt)
    (Nat.le_sub_one_of_lt value_lt)
  exact Nat.lt_of_le_of_lt bounded (by decide)

/-- The weighted sum of words fits 128 bits. -/
theorem weighted_lt_wideSize (count_lt : count < Word.size) :
    mean * count + value < Word.wideSize := by
  have bounded := @weighted_le mean count value Word.top (Nat.le_sub_one_of_lt mean_lt)
    (Nat.le_sub_one_of_lt value_lt)
  calc mean * count + value
    _ ≤ Word.top * (count + 1) := bounded
    _ ≤ Word.top * Word.size := Nat.mul_le_mul_left _ count_lt
    _ < Word.wideSize := by decide

/-- Neither width shows in the mean of words. -/
theorem runningMean_eq (count_lt : count < Word.size) :
    runningMean mean (count + 1) value = (mean * count + value) / (count + 1) := by
  rw [runningMean, Nat.add_sub_cancel,
    Nat.mod_eq_of_lt (weighted_lt_wideSize mean_lt value_lt count_lt)]
  exact Word.wrap_of_lt (weighted_div_lt_size mean_lt value_lt)

end Weighted

namespace Statistics

/-- The lifetimes are words, and no more than a word can count. -/
structure AreWords (lifetimes : List Nat) : Prop where
  few : lifetimes.length < Word.size
  small : ∀ lifetime ∈ lifetimes, lifetime < Word.size

theorem AreWords.of_append {lifetimes : List Nat} {lifetime : Nat}
    (words : AreWords (lifetimes ++ [lifetime])) :
    AreWords lifetimes ∧ lifetimes.length < Word.size ∧ lifetime < Word.size := by
  obtain ⟨few, small⟩ := words
  rw [List.length_append] at few
  have fewer : lifetimes.length < Word.size := Nat.lt_of_le_of_lt (Nat.le_add_right _ _) few
  exact ⟨⟨fewer, fun earlier member => small earlier (List.mem_append_left _ member)⟩, fewer,
    small lifetime List.mem_concat_self⟩

/-- The kept mean lies between the least and the greatest of some lifetimes, and as many times as there
are lifetimes it comes to their sum, less what was lost by rounding. -/
structure Averages (stats : Statistics) (lifetimes : List Nat) : Prop where
  exited : stats.exited = lifetimes.length
  mul_le_sum : lifetimes.length * stats.averageLifetime ≤ lifetimes.sum
  sum_le_mul_add : lifetimes.sum ≤
    lifetimes.length * stats.averageLifetime + lifetimes.length * (lifetimes.length - 1) / 2
  min_le : stats.minLifetime ≤ stats.averageLifetime
  le_max : stats.averageLifetime ≤ stats.maxLifetime
  average_lt : stats.averageLifetime < Word.size

namespace Averages

variable {stats : Statistics} {lifetimes : List Nat}

theorem zero : Averages {} [] where
  exited := rfl
  mul_le_sum := Nat.le_refl _
  sum_le_mul_add := Nat.le_refl _
  min_le := Nat.le_refl _
  le_max := Nat.le_refl _
  average_lt := by decide

theorem onStart (averages : stats.Averages lifetimes) : stats.onStart.Averages lifetimes :=
  { averages with }

/-- The kept mean after one more exit. -/
theorem average_onExit (averages : stats.Averages lifetimes) (few : lifetimes.length < Word.size)
    {lifetime : Nat} (small : lifetime < Word.size) (usage : Usage) :
    (stats.onExit lifetime usage).averageLifetime =
      (stats.averageLifetime * lifetimes.length + lifetime) / (lifetimes.length + 1) := by
  rw [← averages.exited] at few ⊢
  exact runningMean_eq averages.average_lt small few

/-- One more exit loses less than one nanosecond for each exit counted so far. -/
theorem onExit (averages : stats.Averages lifetimes) (few : lifetimes.length < Word.size)
    {lifetime : Nat} (small : lifetime < Word.size) (usage : Usage) :
    (stats.onExit lifetime usage).Averages (lifetimes ++ [lifetime]) := by
  let count := lifetimes.length
  let weighted := stats.averageLifetime * count + lifetime
  have average := averages.average_onExit few small usage
  have exited : stats.exited = count := averages.exited
  have length : (lifetimes ++ [lifetime]).length = count + 1 := List.length_append
  have sum : (lifetimes ++ [lifetime]).sum = lifetimes.sum + lifetime := by
    rw [List.sum_append, List.sum_singleton]
  have turned : count * stats.averageLifetime + lifetime = weighted :=
    congrArg (· + lifetime) (Nat.mul_comm _ _)
  constructor
  case exited =>
    rw [length, ← exited]
    rfl
  case mul_le_sum =>
    rw [length, sum, average]
    calc (count + 1) * (weighted / (count + 1))
      _ ≤ weighted := Nat.mul_div_le weighted (count + 1)
      _ = count * stats.averageLifetime + lifetime := turned.symm
      _ ≤ lifetimes.sum + lifetime := Nat.add_le_add_right averages.mul_le_sum _
  case sum_le_mul_add =>
    have divided := Nat.div_add_mod weighted (count + 1)
    have remainder : weighted % (count + 1) ≤ count :=
      Nat.le_of_lt_succ (Nat.mod_lt weighted (Nat.succ_pos count))
    rw [length, sum, average, Nat.triangle_succ]
    calc lifetimes.sum + lifetime
      _ ≤ count * stats.averageLifetime + count * (count - 1) / 2 + lifetime :=
          Nat.add_le_add_right averages.sum_le_mul_add _
      _ = weighted + count * (count - 1) / 2 := by rw [Nat.add_right_comm, turned]
      _ ≤ (count + 1) * (weighted / (count + 1)) + (count * (count - 1) / 2 + count) := by omega
  case min_le =>
    rw [average]
    show (if stats.exited + 1 = 1 then lifetime else min stats.minLifetime lifetime) ≤ _
    split
    case isTrue first =>
      have none : count = 0 := exited.symm.trans (Nat.succ.inj first)
      simp [count, none]
    case isFalse =>
      exact le_weighted_div (Nat.le_trans (Nat.min_le_left _ _) averages.min_le)
        (Nat.min_le_right _ _)
  case le_max =>
    rw [average]
    show _ ≤ if stats.exited + 1 = 1 then lifetime else max stats.maxLifetime lifetime
    split
    case isTrue first =>
      have none : count = 0 := exited.symm.trans (Nat.succ.inj first)
      simp [count, none]
    case isFalse =>
      exact weighted_div_le (Nat.le_trans averages.le_max (Nat.le_max_left _ _))
        (Nat.le_max_right _ _)
  case average_lt =>
    rw [average]
    exact weighted_div_lt_size averages.average_lt small

end Averages

end Statistics

/-! ## Runs -/

namespace Roster

open Monitor (Change)

variable {roster : Roster} {since : History}

/-- The mean of the roster is that of the exits that count since its counters were last zero, as long
as these have lifetimes that are words. -/
def Averages (roster : Roster) (since : History) : Prop :=
  Statistics.AreWords (Records.lifetimes since.countedExits) →
    roster.stats.Averages (Records.lifetimes since.countedExits)

namespace Averages

theorem undergo (averages : roster.Averages since) (accounts : roster.Accounts since)
    (numbered : roster.Numbered) (change : Change) :
    (roster.undergo change).Averages (since.extend (roster.happening? change)) := by
  intro words
  rw [stats_undergo]
  cases happens : roster.happening? change with
  | none =>
      rw [happens] at words
      exact averages words
  | some happening =>
      rw [happens] at words
      cases happening with
      | reset => exact Statistics.Averages.zero
      | started id =>
          have fresh : ∀ record ∈ since.exits, record.id ≠ id := fun record ended =>
            Nat.ne_of_lt (eq_nextId_of_started happens ▸ accounts.ended_lt record ended)
          have same : History.countedExits (since.extend (some (.started id))) =
              since.countedExits := History.countedExits_append_started fresh
          rw [same] at words ⊢
          exact (averages words).onStart
      | retired record =>
          obtain ⟨running, held, -, sameId⟩ := exists_running happens
          by_cases added : record.id ∈ since.startedIds
          · have same : Records.lifetimes (since.extend (some (.retired record))).countedExits =
                Records.lifetimes since.countedExits ++ [record.lifetimeNanos?.getD 0] :=
              (congrArg Records.lifetimes (History.countedExits_append_counted added)).trans
                List.map_append
            rw [same] at words ⊢
            obtain ⟨before, few, small⟩ := words.of_append
            show (roster.countExit record record.usage).Averages _
            rw [countExit, if_pos ((accounts.started_iff record.id).mp added).1]
            exact (averages before).onExit few small record.usage
          · have same : History.countedExits (since.extend (some (.retired record))) =
                since.countedExits := History.countedExits_append_uncounted added
            have below : record.id < roster.nextId := sameId ▸ numbered.below running held
            rw [same] at words ⊢
            show (roster.countExit record record.usage).Averages _
            rw [accounts.countExit_of_old below added]
            exact averages words

/-- A roster that pictures a monitor keeps the mean of all that the monitor does. -/
theorem after {monitor : Monitor} {past : History} (averages : roster.Averages past.sinceReset)
    (accounts : roster.Accounts past.sinceReset) (pictures : roster.Pictures monitor)
    (calls : List Monitor.Call) :
    (roster.after calls).Averages (History.sinceReset (past ++ monitor.history calls)) := by
  induction calls generalizing roster monitor past with
  | nil =>
      rw [Monitor.history, List.append_nil]
      exact averages
  | cons call calls inductionHypothesis =>
      have numbered := pictures.models.numbered
      have next := averages.undergo accounts numbered call.change
      have account := accounts.undergo numbered call.change
      rw [← pictures.happening?, ← History.sinceReset_append] at next account
      rw [Roster.after_cons, Monitor.history, Monitor.perform_monitor, ← List.append_assoc]
      exact inductionHypothesis next account (pictures.undergo call.change)

end Averages

end Roster

namespace Monitor

/-- The kept mean lies between the kept extremes, and as many times as there are exits that count since
the last reset it comes to the sum of their lifetimes, less at most one nanosecond for each pair of
them.  With one more exit that counts, the sum that is divided fits 128 bits, and the quotient, which
is the new mean, fits a word. -/
theorem average_near_mean (options : Store.Options) (time : Timestamp) (calls : List Call) :
    let monitor := (create options time).1.after calls
    let since := ((create options time).1.history calls).sinceReset
    let lifetimes := Records.lifetimes since.countedExits
    let count := lifetimes.length
    let stats := monitor.store.stats
    count < Word.size → (∀ lifetime ∈ lifetimes, lifetime < Word.size) →
      (stats.exited = count ∧
        lifetimes.sum - count * (count - 1) / 2 ≤ count * stats.averageLifetime ∧
        count * stats.averageLifetime ≤ lifetimes.sum ∧
        stats.minLifetime ≤ stats.averageLifetime ∧ stats.averageLifetime ≤ stats.maxLifetime) ∧
      ∀ call record, monitor.happening? call = some (.retired record) →
        record.id ∈ since.startedIds → record.lifetimeNanos?.getD 0 < Word.size →
        let weighted := stats.averageLifetime * count + record.lifetimeNanos?.getD 0
        weighted < Word.wideSize ∧ weighted / (count + 1) < Word.size ∧
          (monitor.perform call).monitor.store.stats.averageLifetime = weighted / (count + 1) := by
  intro monitor since lifetimes count stats few small
  let roster := (Roster.create options time).after calls
  have start := Roster.Pictures.create options time
  have pictures : roster.Pictures monitor := start.after calls
  have noAccount : (Roster.create options time).Accounts (History.sinceReset []) :=
    Roster.Accounts.of_reset rfl rfl
  have noMean : (Roster.create options time).Averages (History.sinceReset []) :=
    fun _ => Statistics.Averages.zero
  have accounts : roster.Accounts since := noAccount.after start calls
  have sameStats : stats = roster.stats := pictures.models.stats
  have averages : stats.Averages lifetimes :=
    sameStats ▸ noMean.after noAccount start calls ⟨few, small⟩
  refine ⟨⟨averages.exited, ?_, averages.mul_le_sum, averages.min_le, averages.le_max⟩, ?_⟩
  · exact Nat.sub_le_iff_le_add.mpr averages.sum_le_mul_add
  · intro call record retired added smallToo weighted
    have fits := weighted_lt_wideSize averages.average_lt smallToo few
    have quotientFits : weighted / (count + 1) < Word.size :=
      weighted_div_lt_size averages.average_lt smallToo
    rw [pictures.happening?] at retired
    have next : (monitor.undergo call.change).store.stats = roster.countExit record record.usage := by
      rw [(pictures.undergo call.change).models.stats, Roster.stats_undergo, retired]
    refine ⟨fits, quotientFits, ?_⟩
    rw [perform_monitor, next, Roster.countExit, if_pos ((accounts.started_iff record.id).mp added).1,
      ← sameStats]
    exact averages.average_onExit few smallToo record.usage

/-- Processes live for one and two nanoseconds, and then one for three.  The kept mean of the first two
is as far from the true one as it may be, and the third does not move it. -/
theorem average_near_mean_of_three :
    let calls : List Call :=
      [.start 7 1 "sh", .start 8 1 "sh", .start 9 1 "sh", .moveClock (.set 1), .exit 7 0 {},
        .moveClock (.set 2), .exit 8 0 {}, .moveClock (.set 3)]
    let monitor := (create {} 0).1.after calls
    let since := ((create {} 0).1.history calls).sinceReset
    let stats := monitor.store.stats
    Records.lifetimes since.countedExits = [1, 2] ∧
      (3 - 1 ≤ 2 * stats.averageLifetime ∧ 2 * stats.averageLifetime ≤ 3) ∧
      (monitor.perform (.exit 9 0 {})).monitor.store.stats.averageLifetime = (1 * 2 + 3) / 3 := by
  intro calls monitor since stats
  let third := (Record.started 3 9 1 (CommandName.ofString "sh") 0).ended 3 0 {}
  have lifetimes : Records.lifetimes since.countedExits = [1, 2] := by decide +kernel
  have retired : monitor.happening? (.exit 9 0 {}) = some (.retired third) := by decide +kernel
  have added : third.id ∈ since.startedIds := by decide +kernel
  have average : stats.averageLifetime = 1 := by decide +kernel
  have few : (Records.lifetimes since.countedExits).length < Word.size := by
    rw [lifetimes]
    decide
  have small : ∀ lifetime ∈ Records.lifetimes since.countedExits, lifetime < Word.size := by
    rw [lifetimes]
    decide
  obtain ⟨⟨-, atLeast, atMost, -, -⟩, step⟩ := average_near_mean {} 0 calls few small
  have next := (step (.exit 9 0 {}) third retired added (by decide)).2.2
  rw [show Records.lifetimes _ = _ from lifetimes] at atLeast atMost next
  refine ⟨lifetimes, ⟨atLeast, atMost⟩, ?_⟩
  rw [average] at next
  exact next

end Monitor

end ProcessWatch
