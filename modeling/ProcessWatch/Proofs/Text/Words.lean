/-
Module: ProcessWatch.Proofs.Text.Words
Purpose: The words of a text are the only ones that blanks separate it into.
Trusted boundary: none
Main exports: Text.IsWord, Text.Separates, Text.wordRuns_eq_iff, Text.words_eq_iff,
  Text.isWord_of_mem_words, Text.words_intercalate
-/
import ProcessWatch.Text.Blank

namespace ProcessWatch.Text

/-- Some characters without a blank among them. -/
structure IsWord (chars : List Char) : Prop where
  ne_nil : chars ≠ []
  visible : ∀ c ∈ chars, isBlank c = false

/-- Whether a fixed text is a word can be computed. -/
theorem isWord_of_all {chars : List Char} (ne_nil : chars.isEmpty = false)
    (visible : (chars.all fun c => !isBlank c) = true) : IsWord chars where
  ne_nil := by
    rintro rfl
    cases ne_nil
  visible := by simpa using visible

/-- The text is made of the words in their order, with at least one blank between two of them and any
number of blanks around them. -/
inductive Separates : List (List Char) → List Char → Prop where
  | blanks {gap : List Char} (blank : ∀ c ∈ gap, isBlank c = true) : Separates [] gap
  | word {gap word rest : List Char} {words : List (List Char)}
      (blank : ∀ c ∈ gap, isBlank c = true) (isWord : IsWord word)
      (ends : startsWord rest = false) (tail : Separates words rest) :
      Separates (word :: words) (gap ++ word ++ rest)

/-! ## What the reader finds -/

theorem wordRuns_append_of_blank {gap : List Char} (blank : ∀ c ∈ gap, isBlank c = true)
    (rest : List Char) : wordRuns (gap ++ rest) = wordRuns rest := by
  induction gap with
  | nil => rfl
  | cons c gap inductionHypothesis =>
      obtain ⟨first, others⟩ := List.forall_mem_cons.mp blank
      simp only [List.cons_append, wordRuns_cons_of_blank _ first, inductionHypothesis others]

theorem startsWord_append {word : List Char} (isWord : IsWord word) (rest : List Char) :
    startsWord (word ++ rest) = true := by
  cases word with
  | nil => exact absurd rfl isWord.ne_nil
  | cons c word => simp [startsWord, isWord.visible c List.mem_cons_self]

/-- A word at the front is found whole. -/
theorem wordRuns_append_of_isWord {word rest : List Char} (isWord : IsWord word)
    (ends : startsWord rest = false) : wordRuns (word ++ rest) = word :: wordRuns rest := by
  induction word with
  | nil => exact absurd rfl isWord.ne_nil
  | cons c word inductionHypothesis =>
      obtain ⟨first, others⟩ := List.forall_mem_cons.mp isWord.visible
      rw [List.cons_append, wordRuns_cons_of_not_blank _ first]
      cases word with
      | nil => cases found : wordRuns rest <;> simp [attach, ends, found]
      | cons next word =>
          have shorter : IsWord (next :: word) := ⟨List.cons_ne_nil _ _, others⟩
          rw [inductionHypothesis shorter, startsWord_append shorter, attach]
          rfl

theorem Separates.wordRuns_eq {words : List (List Char)} {chars : List Char}
    (separates : Separates words chars) : wordRuns chars = words := by
  induction separates with
  | blanks blank => exact (wordRuns_eq_nil_iff _).mpr blank
  | word blank isWord ends _ inductionHypothesis =>
      simp only [List.append_assoc, wordRuns_append_of_blank blank,
        wordRuns_append_of_isWord isWord ends, inductionHypothesis]

/-! ## What there is to find -/

namespace Separates

variable {words : List (List Char)} {chars : List Char}

theorem isWord_of_mem (separates : Separates words chars) : ∀ word ∈ words, IsWord word := by
  induction separates with
  | blanks _ =>
      intro word member
      cases member
  | word _ isWord _ _ inductionHypothesis =>
      exact List.forall_mem_cons.mpr ⟨isWord, inductionHypothesis⟩

/-- The first word needs no blanks before it. -/
theorem first_word {word rest : List Char} (isWord : IsWord word) (ends : startsWord rest = false)
    (tail : Separates words rest) : Separates (word :: words) (word ++ rest) := by
  have noGap : ∀ c ∈ ([] : List Char), isBlank c = true := by
    intro c member
    cases member
  exact .word noGap isWord ends tail

/-- One more blank in front changes nothing. -/
theorem cons_blank {c : Char} (blank : isBlank c = true) (separates : Separates words chars) :
    Separates words (c :: chars) := by
  cases separates with
  | blanks others => exact .blanks (List.forall_mem_cons.mpr ⟨blank, others⟩)
  | word others isWord ends tail =>
      exact .word (List.forall_mem_cons.mpr ⟨blank, others⟩) isWord ends tail

/-- One more visible character in front goes into the first word or is a word of its own. -/
theorem cons_visible {c : Char} (visible : isBlank c = false)
    (separates : Separates words chars) :
    Separates (attach c (startsWord chars) words) (c :: chars) := by
  have alone : IsWord [c] := ⟨List.cons_ne_nil _ _, by simp [visible]⟩
  cases joins : startsWord chars with
  | false =>
      have apart : attach c false words = [c] :: words := by
        cases words <;> rfl
      rw [apart]
      exact first_word alone joins separates
  | true =>
      cases separates with
      | blanks blank =>
          cases chars with
          | nil => cases joins
          | cons first chars => simp [startsWord, blank first List.mem_cons_self] at joins
      | @word gap word rest words blank isWord ends tail =>
          cases gap with
          | cons first gap => simp [startsWord, blank first List.mem_cons_self] at joins
          | nil =>
              have longer : IsWord (c :: word) :=
                ⟨List.cons_ne_nil _ _, List.forall_mem_cons.mpr ⟨visible, isWord.visible⟩⟩
              exact first_word longer ends tail

end Separates

theorem separates_wordRuns (chars : List Char) : Separates (wordRuns chars) chars := by
  induction chars with
  | nil => exact .blanks (by simp)
  | cons c chars inductionHypothesis =>
      cases blank : isBlank c with
      | true =>
          rw [wordRuns_cons_of_blank chars blank]
          exact inductionHypothesis.cons_blank blank
      | false =>
          rw [wordRuns_cons_of_not_blank chars blank]
          exact inductionHypothesis.cons_visible blank

/-- A text falls into words in one way only, and the reader finds it. -/
theorem wordRuns_eq_iff {chars : List Char} {words : List (List Char)} :
    wordRuns chars = words ↔ Separates words chars := by
  constructor
  · rintro rfl
    exact separates_wordRuns chars
  · exact Separates.wordRuns_eq

theorem words_eq_iff {text : String} {found : List String} :
    words text = found ↔ Separates (found.map String.toList) text.toList := by
  rw [← wordRuns_eq_iff, words]
  constructor
  · rintro rfl
    simp
  · intro same
    simp [same]

theorem isWord_of_mem_words {text word : String} (member : word ∈ words text) :
    IsWord word.toList := by
  have separates := words_eq_iff.mp (rfl : words text = words text)
  exact separates.isWord_of_mem _ (List.mem_map_of_mem member)

/-! ## Writing words -/

/-- Words with one space between them are read back. -/
theorem words_intercalate {parts : List String} (isWord : ∀ word ∈ parts, IsWord word.toList) :
    words (" ".intercalate parts) = parts := by
  rw [words_eq_iff]
  induction parts with
  | nil => exact .blanks (by simp)
  | cons word parts inductionHypothesis =>
      obtain ⟨first, others⟩ := List.forall_mem_cons.mp isWord
      have tail := inductionHypothesis others
      cases parts with
      | nil =>
          have single : Separates [word.toList] (word.toList ++ []) :=
            Separates.first_word first rfl tail
          simpa using single
      | cons next parts =>
          have isBlank : isBlank ' ' = true := rfl
          have more := Separates.first_word first rfl (tail.cons_blank isBlank)
          simpa [String.intercalate_cons_cons] using more

end ProcessWatch.Text
