/-
Module: ProcessWatch.Proofs.Statistics
Purpose: How the counters compare of two stores that saw the same starts, one of which saw fewer
  exits.
Trusted boundary: none
Main exports: Statistics.MissesExits, Statistics.MissesExits.onStart, Statistics.MissesExits.onExit,
  Statistics.MissesExits.onExit_right
-/
import ProcessWatch.Statistics

namespace ProcessWatch

namespace Word

theorem saturate_le_saturate {first second : Nat} (below : first ≤ second) :
    saturate first ≤ saturate second := by
  rw [saturate, saturate]
  omega

theorem saturate_le_top (value : Nat) : saturate value ≤ top := Nat.min_le_right _ _

/-- What is added to a saturated sum does not lower it. -/
theorem le_saturate_add {sum : Nat} (bounded : sum ≤ top) (more : Nat) :
    sum ≤ saturate (sum + more) :=
  Nat.le_min.mpr ⟨Nat.le_add_right sum more, bounded⟩

/-- A sum that saturates on the way comes to the same as one that saturates at its end. -/
theorem saturate_saturate_add (sum more : Nat) :
    saturate (saturate sum + more) = saturate (sum + more) := by
  rw [saturate, saturate, saturate]
  omega

end Word

namespace Statistics

/-- The first counters counted the same starts as the second ones, but perhaps fewer exits. -/
structure MissesExits (few many : Statistics) : Prop where
  created : few.created = many.created
  exited : few.exited ≤ many.exited
  current : many.current ≤ few.current
  peak : many.peak ≤ few.peak
  totalCpuTime : few.totalCpuTime ≤ many.totalCpuTime
  totalLifetime : few.totalLifetime ≤ many.totalLifetime
  totalCpuTime_le_top : many.totalCpuTime ≤ Word.top
  totalLifetime_le_top : many.totalLifetime ≤ Word.top

namespace MissesExits

variable {few many : Statistics}

theorem zero : MissesExits {} {} := by
  constructor
  case created => rfl
  all_goals exact Nat.zero_le _

theorem onStart (misses : few.MissesExits many) : few.onStart.MissesExits many.onStart where
  created := congrArg (· + 1) misses.created
  exited := misses.exited
  current := Nat.succ_le_succ misses.current
  peak := by
    have peak := misses.peak
    have current := misses.current
    show max many.peak (many.current + 1) ≤ max few.peak (few.current + 1)
    omega
  totalCpuTime := misses.totalCpuTime
  totalLifetime := misses.totalLifetime
  totalCpuTime_le_top := misses.totalCpuTime_le_top
  totalLifetime_le_top := misses.totalLifetime_le_top

/-- Both count an exit. -/
theorem onExit (misses : few.MissesExits many) (lifetime : Nat) (usage : Usage) :
    (few.onExit lifetime usage).MissesExits (many.onExit lifetime usage) where
  created := misses.created
  exited := Nat.succ_le_succ misses.exited
  current := Nat.sub_le_sub_right misses.current 1
  peak := misses.peak
  totalCpuTime := Word.saturate_le_saturate (Nat.add_le_add_right misses.totalCpuTime _)
  totalLifetime := Word.saturate_le_saturate (Nat.add_le_add_right misses.totalLifetime _)
  totalCpuTime_le_top := Word.saturate_le_top _
  totalLifetime_le_top := Word.saturate_le_top _

/-- Only the second one counts an exit. -/
theorem onExit_right (misses : few.MissesExits many) (lifetime : Nat) (usage : Usage) :
    few.MissesExits (many.onExit lifetime usage) where
  created := misses.created
  exited := Nat.le_succ_of_le misses.exited
  current := Nat.le_trans (Nat.sub_le _ _) misses.current
  peak := misses.peak
  totalCpuTime :=
    Nat.le_trans misses.totalCpuTime (Word.le_saturate_add misses.totalCpuTime_le_top _)
  totalLifetime :=
    Nat.le_trans misses.totalLifetime (Word.le_saturate_add misses.totalLifetime_le_top _)
  totalCpuTime_le_top := Word.saturate_le_top _
  totalLifetime_le_top := Word.saturate_le_top _

end MissesExits

end Statistics

end ProcessWatch
