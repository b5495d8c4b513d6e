/-
Module: ProcessWatch.Text.Blank
Purpose: The blank characters of Unicode, and the two readings of a line that rest on them: the line
  without its outer blanks, and the line as a list of words.
Trusted boundary: none
Main exports: isBlank, trim, trimEnd, words
-/

namespace ProcessWatch.Text

/-- The characters with the Unicode property `White_Space`. -/
def isBlank (c : Char) : Bool :=
  let code := c.toNat
  (0x09 ≤ code && code ≤ 0x0D) || code == 0x20 || code == 0x85 || code == 0xA0 || code == 0x1680 ||
    (0x2000 ≤ code && code ≤ 0x200A) || code == 0x2028 || code == 0x2029 || code == 0x202F ||
    code == 0x205F || code == 0x3000

/-- Drop the blanks that a run of characters ends in. -/
def dropBlankEnd (chars : List Char) : List Char :=
  (chars.reverse.dropWhile isBlank).reverse

/-- Drop the blanks around a run of characters. -/
def dropBlanks (chars : List Char) : List Char :=
  dropBlankEnd (chars.dropWhile isBlank)

/-- A word starts at the first character of the run. -/
def startsWord : List Char → Bool
  | [] => false
  | c :: _ => !isBlank c

/-- Put a non-blank character in front of some words: into the first of them if that one starts at
the next character, and as a word of its own otherwise. -/
def attach (c : Char) (joins : Bool) : List (List Char) → List (List Char)
  | [] => [[c]]
  | word :: words => if joins then (c :: word) :: words else [c] :: word :: words

/-- The maximal runs of non-blank characters, from left to right. -/
def wordRuns : List Char → List (List Char)
  | [] => []
  | c :: rest =>
      if isBlank c then wordRuns rest else attach c (startsWord rest) (wordRuns rest)

/-- A text without the blanks around it. -/
def trim (text : String) : String :=
  String.ofList (dropBlanks text.toList)

/-- A text without the blanks at its end. -/
def trimEnd (text : String) : String :=
  String.ofList (dropBlankEnd text.toList)

/-- The words of a text: what its blanks separate. -/
def words (text : String) : List String :=
  (wordRuns text.toList).map String.ofList

@[simp] theorem wordRuns_nil : wordRuns [] = [] := rfl

theorem attach_ne_nil (c : Char) (joins : Bool) (words : List (List Char)) :
    attach c joins words ≠ [] := by
  cases words <;> cases joins <;> simp [attach]

theorem wordRuns_cons_of_blank {c : Char} (rest : List Char) (blank : isBlank c = true) :
    wordRuns (c :: rest) = wordRuns rest := by
  rw [wordRuns, if_pos blank]

theorem wordRuns_cons_of_not_blank {c : Char} (rest : List Char) (visible : isBlank c = false) :
    wordRuns (c :: rest) = attach c (startsWord rest) (wordRuns rest) := by
  rw [wordRuns, if_neg (by rw [visible]; decide)]

/-- A text has no words exactly if every character of it is blank. -/
theorem wordRuns_eq_nil_iff (chars : List Char) :
    wordRuns chars = [] ↔ ∀ c ∈ chars, isBlank c = true := by
  induction chars with
  | nil => exact ⟨fun _ _ absent => (List.not_mem_nil absent).elim, fun _ => rfl⟩
  | cons c rest ih =>
      rw [List.forall_mem_cons]
      cases blank : isBlank c with
      | true => rw [wordRuns_cons_of_blank rest blank, ih]; exact ⟨fun h => ⟨rfl, h⟩, fun h => h.2⟩
      | false =>
          rw [wordRuns_cons_of_not_blank rest blank]
          exact ⟨fun empty => (attach_ne_nil _ _ _ empty).elim, fun all => nomatch all.1⟩

end ProcessWatch.Text
