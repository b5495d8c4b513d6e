/-
Module: ProcessWatch.Proofs.Text.Trim
Purpose: What is left of a text without the blanks around it, and that nothing is left of it exactly if
  it has no words.
Trusted boundary: none
Main exports: Text.Trims, Text.trim_eq_iff, Text.IsWord.trims, Text.trim_eq_empty_iff
-/
import ProcessWatch.Proofs.Text.Words
import Mathlib.Data.List.DropRight

namespace ProcessWatch.Text

/-- The text is the value with blanks around it, and the value neither begins nor ends with one. -/
structure Trims (text value : List Char) : Prop where
  around : ∃ front back, text = front ++ value ++ back ∧
    (∀ c ∈ front, isBlank c = true) ∧ ∀ c ∈ back, isBlank c = true
  first : ∀ c ∈ value.head?, isBlank c = false
  last : ∀ c ∈ value.getLast?, isBlank c = false

/-! ## What trimming leaves -/

theorem not_isBlank_of_mem_head?_dropWhile {chars : List Char} :
    ∀ c ∈ (chars.dropWhile isBlank).head?, isBlank c = false := by
  intro c first
  have visible := List.head?_dropWhile_not isBlank chars
  rw [Option.mem_def.mp first] at visible
  simpa using visible

/-- What is dropped at the end is blank. -/
theorem exists_dropBlankEnd_append (chars : List Char) :
    ∃ back, chars = dropBlankEnd chars ++ back ∧ ∀ c ∈ back, isBlank c = true := by
  refine ⟨(chars.reverse.takeWhile isBlank).reverse, ?_, ?_⟩
  · rw [dropBlankEnd, ← List.reverse_append, List.takeWhile_append_dropWhile, List.reverse_reverse]
  · intro c member
    exact List.mem_takeWhile_imp (List.mem_reverse.mp member)

theorem trims_dropBlanks (chars : List Char) : Trims chars (dropBlanks chars) := by
  obtain ⟨back, split, blank⟩ := exists_dropBlankEnd_append (chars.dropWhile isBlank)
  constructor
  case around =>
    refine ⟨chars.takeWhile isBlank, back, ?_, fun c => List.mem_takeWhile_imp, blank⟩
    rw [dropBlanks, List.append_assoc, ← split, List.takeWhile_append_dropWhile]
  case first =>
    intro c first
    have begins : c ∈ (chars.dropWhile isBlank).head? := by
      rw [split]
      exact List.mem_head?_append_of_mem_head? first
    exact not_isBlank_of_mem_head?_dropWhile c begins
  case last =>
    intro c last
    rw [dropBlanks, dropBlankEnd, List.getLast?_reverse] at last
    exact not_isBlank_of_mem_head?_dropWhile c last

/-! ## There is no other -/

theorem dropWhile_isBlank_of_visible {chars : List Char}
    (visible : ∀ c ∈ chars.head?, isBlank c = false) : chars.dropWhile isBlank = chars := by
  cases chars with
  | nil => rfl
  | cons c rest =>
      have first := visible c rfl
      exact List.dropWhile_cons_of_neg (by simp [first])

theorem dropBlankEnd_append {value back : List Char} (blank : ∀ c ∈ back, isBlank c = true)
    (visible : ∀ c ∈ value.getLast?, isBlank c = false) : dropBlankEnd (value ++ back) = value := by
  have blankReverse : ∀ c ∈ back.reverse, isBlank c = true :=
    fun c member => blank c (List.mem_reverse.mp member)
  have visibleReverse : ∀ c ∈ value.reverse.head?, isBlank c = false := by
    rwa [List.head?_reverse]
  rw [dropBlankEnd, List.reverse_append, List.dropWhile_append_of_pos blankReverse,
    dropWhile_isBlank_of_visible visibleReverse, List.reverse_reverse]

theorem Trims.dropBlanks_eq {text value : List Char} (trims : Trims text value) :
    dropBlanks text = value := by
  obtain ⟨front, back, rfl, before, behind⟩ := trims.around
  rw [dropBlanks, List.append_assoc, List.dropWhile_append_of_pos before]
  cases value with
  | nil =>
      have allBlank : back.dropWhile isBlank = [] := List.dropWhile_eq_nil_iff.mpr behind
      rw [List.nil_append, allBlank]
      rfl
  | cons c rest =>
      -- The value begins the rest of the text, so that the rest begins visibly, too.
      have visible : ∀ first ∈ (c :: rest ++ back).head?, isBlank first = false := trims.first
      rw [dropWhile_isBlank_of_visible visible, dropBlankEnd_append behind trims.last]

/-- Trimming finds the one value that has only blanks around it. -/
theorem trim_eq_iff {text value : String} :
    trim text = value ↔ Trims text.toList value.toList := by
  constructor
  · rintro rfl
    rw [trim, String.toList_ofList]
    exact trims_dropBlanks text.toList
  · intro trims
    rw [trim, trims.dropBlanks_eq, String.ofList_toList]

/-! ## Words -/

/-- A word has no blanks around it. -/
theorem IsWord.trims {chars : List Char} (isWord : IsWord chars) : Trims chars chars where
  around := ⟨[], [], by simp⟩
  first := fun c member => isWord.visible c (List.mem_of_mem_head? member)
  last := fun c member => isWord.visible c (List.mem_of_mem_getLast? member)

/-- Nothing is left of a text exactly if every character of it is blank. -/
theorem trims_nil_iff {text : List Char} : Trims text [] ↔ ∀ c ∈ text, isBlank c = true := by
  constructor
  · intro trims
    obtain ⟨front, back, rfl, before, behind⟩ := trims.around
    simpa [or_imp, forall_and] using And.intro before behind
  · intro blank
    exact ⟨⟨text, [], by simp, blank, by simp⟩, by simp, by simp⟩

/-- Nothing is left of a text exactly if it has no words. -/
theorem trim_eq_empty_iff {text : String} : trim text = "" ↔ words text = [] := by
  rw [trim_eq_iff, String.toList_empty, trims_nil_iff, words, List.map_eq_nil_iff,
    wordRuns_eq_nil_iff]

end ProcessWatch.Text
