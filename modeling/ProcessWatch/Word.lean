/-
Module: ProcessWatch.Word
Purpose: The 64-bit words that times, counters and identifiers are kept in.  Quantities are natural
  numbers throughout; the width enters only where a sum wraps or saturates, where a sentinel is
  needed, and where a number is read from text.
Trusted boundary: a quantity that is made neither to wrap nor to saturate stays below the width of a word
Main exports: Word.size, Word.wideSize, Word.top, Word.wrap, Word.saturate, Word.le_wrap_add_iff
-/

namespace ProcessWatch.Word

/-- The number of values a word of 64 bits has. -/
def size : Nat := 18446744073709551616

/-- The number of values a word of 128 bits has. -/
def wideSize : Nat := 340282366920938463463374607431768211456

/-- The greatest value of a word. -/
def top : Nat := size - 1

/-- The value of a word after a sum that may have passed its top. -/
def wrap (value : Nat) : Nat := value % size

/-- The value of a word that stays at its top instead of passing it. -/
def saturate (value : Nat) : Nat := min value top

theorem wideSize_eq_size_mul_size : wideSize = size * size := by decide

theorem wrap_lt (value : Nat) : wrap value < size :=
  Nat.mod_lt _ (by decide)

theorem wrap_of_lt {value : Nat} (small : value < size) : wrap value = value :=
  Nat.mod_eq_of_lt small

/-- A sum comes out below its first part exactly if it passes the top. -/
theorem le_wrap_add_iff {value added : Nat} :
    value ≤ wrap (value + added) ↔ value + wrap added < size := by
  have once : wrap (value + added) = wrap (value + wrap added) := (Nat.add_mod_mod _ _ _).symm
  have small := wrap_lt added
  rw [once]
  by_cases fits : value + wrap added < size
  · simp only [wrap_of_lt fits, Nat.le_add_right, fits]
  · have turned : wrap (value + wrap added) = wrap (value + wrap added - size) :=
      Nat.mod_eq_sub_mod (Nat.le_of_not_lt fits)
    have bound : wrap (value + wrap added - size) ≤ value + wrap added - size := Nat.mod_le _ _
    omega

theorem saturate_lt (value : Nat) : saturate value < size :=
  Nat.lt_of_le_of_lt (Nat.min_le_right _ _) (by decide)

theorem saturate_of_lt {value : Nat} (small : value < size) : saturate value = value :=
  Nat.min_eq_left (by simp only [top]; omega)

end ProcessWatch.Word
