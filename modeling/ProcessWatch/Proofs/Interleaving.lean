/-
Module: ProcessWatch.Proofs.Interleaving
Purpose: The ways in which several programs can be carried out at the same time, one whole item after
  the other.
Trusted boundary: none
Main exports: Interleaves, Interleaves.perm, Interleaves.filter_eq, Interleaves.filter_congr
-/
import Mathlib.Data.List.Basic
import Mathlib.Data.List.Flatten

namespace ProcessWatch

variable {α : Type}

/-- The list has the items of all programs, those of each program in their own order. -/
inductive Interleaves : List (List α) → List α → Prop where
  | done {programs : List (List α)} (finished : ∀ program ∈ programs, program = []) :
      Interleaves programs []
  /-- A program that is not at its end has the next item. -/
  | step {programs : List (List α)} {thread : Nat} {item : α} {rest merged : List α}
      (next : programs[thread]? = some (item :: rest))
      (others : Interleaves (programs.set thread rest) merged) :
      Interleaves programs (item :: merged)

namespace Interleaves

variable {programs : List (List α)} {merged : List α} {thread : Nat}

/-- A program that goes on by one item has lost this item. -/
theorem flatten_perm_of_next {item : α} {rest : List α}
    (next : programs[thread]? = some (item :: rest)) :
    programs.flatten.Perm (item :: (programs.set thread rest).flatten) := by
  obtain ⟨inside, here⟩ := List.getElem?_eq_some_iff.mp next
  have parted : programs = programs.take thread ++ (item :: rest) :: programs.drop (thread + 1) := by
    rw [← here, List.getElem_cons_drop, List.take_append_drop]
  rw [List.set_eq_take_append_cons_drop, if_pos inside]
  conv_lhs => rw [parted]
  simp only [List.flatten_append, List.flatten_cons, List.cons_append]
  exact List.perm_middle

theorem perm (merges : Interleaves programs merged) : merged.Perm programs.flatten := by
  induction merges with
  | done finished => rw [List.flatten_eq_nil_iff.mpr finished]
  | step next _ inductionHypothesis =>
      exact (inductionHypothesis.cons _).trans (flatten_perm_of_next next).symm

/-- Items that no other program has stand in the list as they stand in their own. -/
theorem filter_eq (merges : Interleaves programs merged) {program : List α} {mine : α → Bool}
    (there : programs[thread]? = some program)
    (foreign : ∀ (other : Nat) (items : List α), other ≠ thread → programs[other]? = some items →
      ∀ item ∈ items, mine item = false) :
    merged.filter mine = program.filter mine := by
  induction merges generalizing program with
  | done finished =>
      rw [finished program (List.mem_of_getElem? there)]
  | @step programs moving item rest merged next _ inductionHypothesis =>
      have inside := (List.getElem?_eq_some_iff.mp next).1
      by_cases here : moving = thread
      · subst here
        obtain rfl : item :: rest = program := Option.some.inj (next.symm.trans there)
        have tail : merged.filter mine = rest.filter mine := by
          apply inductionHypothesis
          · exact List.getElem?_set_self inside
          · intro other items different listed
            rw [List.getElem?_set_ne (Ne.symm different)] at listed
            exact foreign other items different listed
        rw [List.filter_cons, List.filter_cons, tail]
      · have notMine : mine item = false :=
          foreign moving _ here next item List.mem_cons_self
        rw [List.filter_cons_of_neg (by simp [notMine])]
        apply inductionHypothesis
        · rw [List.getElem?_set_ne here]
          exact there
        · intro other items different listed
          by_cases moved : moving = other
          · subst moved
            rw [List.getElem?_set_self inside] at listed
            obtain rfl := Option.some.inj listed
            exact fun item member => foreign moving _ here next item (List.mem_cons_of_mem _ member)
          · rw [List.getElem?_set_ne moved] at listed
            exact foreign other items different listed

/-- Items that belong to one program at most stand in one order, however the programs are carried
out. -/
theorem filter_congr {first second : List α} (one : Interleaves programs first)
    (two : Interleaves programs second) {mine : α → Bool}
    (single : ∀ (thread other : Nat) (items more : List α), programs[thread]? = some items →
      programs[other]? = some more → ∀ item ∈ items, ∀ further ∈ more,
        mine item = true → mine further = true → thread = other) :
    first.filter mine = second.filter mine := by
  by_cases somebody : ∃ (thread : Nat) (program : List α), programs[thread]? = some program ∧
      ∃ item ∈ program, mine item = true
  · obtain ⟨thread, program, there, item, member, isMine⟩ := somebody
    have foreign : ∀ (other : Nat) (items : List α), other ≠ thread →
        programs[other]? = some items → ∀ item ∈ items, mine item = false := by
      intro other items different listed further inside
      by_contra alsoMine
      exact different
        (single other thread items program listed there further inside item member
          (by simpa using alsoMine) isMine)
    exact (one.filter_eq there foreign).trans (two.filter_eq there foreign).symm
  · have nobody : ∀ merged, Interleaves programs merged → merged.filter mine = [] := by
      intro merged merges
      refine List.filter_eq_nil_iff.mpr fun item member isMine => somebody ?_
      obtain ⟨program, listed, inside⟩ := List.mem_flatten.mp (merges.perm.mem_iff.mp member)
      obtain ⟨thread, there⟩ := List.mem_iff_getElem?.mp listed
      exact ⟨thread, program, there, item, inside, isMine⟩
    rw [nobody first one, nobody second two]

end Interleaves

end ProcessWatch
