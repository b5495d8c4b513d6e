/-
Module: ProcessWatch.Proofs.Text.Padding
Purpose: A padded text is the word that it was without the blanks at its end, and a number with zeros in
  front of it has the value that it had without them.
Trusted boundary: none
Main exports: Text.Separates.padRight, Text.digitsValue?_toString, Text.digitsValue?_zeroPadded,
  Text.length_zeroPadded
-/
import ProcessWatch.Proofs.Text.Numeral
import ProcessWatch.Text.Padding

namespace ProcessWatch.Text

/-! ## Columns -/

/-- Blanks in front of a text change nothing. -/
theorem Separates.append_blanks {words : List (List Char)} {gap chars : List Char}
    (blank : ∀ c ∈ gap, isBlank c = true) (separates : Separates words chars) :
    Separates words (gap ++ chars) := by
  induction gap with
  | nil => exact separates
  | cons c gap inductionHypothesis =>
      obtain ⟨first, others⟩ := List.forall_mem_cons.mp blank
      exact (inductionHypothesis others).cons_blank first

theorem isBlank_of_mem_spaces {count : Nat} : ∀ c ∈ spaces count, isBlank c = true := by
  intro c member
  rw [List.eq_of_mem_replicate member]
  rfl

/-- A word that is padded is followed by the next one as if it were not, however wide it is. -/
theorem Separates.padRight {words : List (List Char)} {word : String} {rest : List Char}
    (isWord : IsWord word.toList) (ends : startsWord rest = false) (tail : Separates words rest)
    (width : Nat) :
    Separates (word.toList :: words) ((Text.padRight width word).toList ++ rest) := by
  rw [toList_padRight, List.append_assoc]
  refine first_word isWord ?_ (tail.append_blanks isBlank_of_mem_spaces)
  cases width - word.length with
  | zero => exact ends
  | succ missing => rfl

/-! ## Numbers -/

/-- The digits of a number may have zeros in front of them. -/
theorem ofDigitChars_zeros (count : Nat) (digits : List Char) :
    Nat.ofDigitChars 10 (List.replicate count '0' ++ digits) 0 = Nat.ofDigitChars 10 digits 0 := by
  induction count with
  | zero => rfl
  | succ count inductionHypothesis =>
      rw [List.replicate_succ, List.cons_append, Nat.ofDigitChars_cons]
      exact inductionHypothesis

theorem digitsValue?_toString (number : Nat) :
    digitsValue? (toString number).toList = some number := by
  have digits : (toString number).toList = Nat.toDigits 10 number := by simp
  rw [digits, digitsValue?_eq_some_iff]
  exact ⟨isDecimal_toDigits number, (Nat.ofDigitChars_toDigits (by decide) (by decide)).symm⟩

theorem isDecimal_zeroPadded (width number : Nat) :
    IsDecimal (zeroPadded width number).toList where
  ne_nil := by simp [zeroPadded]
  digits := by
    intro c member
    simp only [zeroPadded, String.toList_ofList, List.mem_append] at member
    rcases member with zero | digit
    · rw [List.eq_of_mem_replicate zero]
      rfl
    · have digits : (toString number).toList = Nat.toDigits 10 number := by simp
      exact (isDecimal_toDigits number).digits c (digits ▸ digit)

theorem digitsValue?_zeroPadded (width number : Nat) :
    digitsValue? (zeroPadded width number).toList = some number := by
  rw [digitsValue?_eq_some_iff]
  refine ⟨isDecimal_zeroPadded width number, ?_⟩
  simp [zeroPadded, ofDigitChars_zeros]

/-- A number that needs no more digits is padded to just the width. -/
theorem length_zeroPadded {width number : Nat} (short : (Nat.toDigits 10 number).length ≤ width) :
    (zeroPadded width number).toList.length = width := by
  simp [zeroPadded]
  omega

end ProcessWatch.Text
