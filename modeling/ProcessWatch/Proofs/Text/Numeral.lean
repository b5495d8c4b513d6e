/-
Module: ProcessWatch.Proofs.Text.Numeral
Purpose: Which texts are read as numbers, and as which, and that a number is read back from the digits
  that it is written with.
Trusted boundary: none
Main exports: Text.IsDecimal, Text.Unsigned, Text.Signed, Text.readNatural?_eq_some_iff,
  Text.readUInt32?_eq_some_iff, Text.readInt32?_eq_some_iff, Text.unsigned_toString,
  Text.signed_toString
-/
import ProcessWatch.Proofs.Text.Words
import ProcessWatch.Text.Numeral

namespace ProcessWatch.Text

/-- At least one ASCII digit, and nothing else. -/
structure IsDecimal (chars : List Char) : Prop where
  ne_nil : chars ≠ []
  digits : ∀ c ∈ chars, c.isDigit = true

/-- A numeral without a minus, and its value. -/
inductive Unsigned : List Char → Nat → Prop where
  | plain {digits : List Char} (isDecimal : IsDecimal digits) :
      Unsigned digits (Nat.ofDigitChars 10 digits 0)
  | plus {digits : List Char} (isDecimal : IsDecimal digits) :
      Unsigned ('+' :: digits) (Nat.ofDigitChars 10 digits 0)

/-- A numeral that may have a minus, and its value. -/
inductive Signed : List Char → Int → Prop where
  | unsigned {chars : List Char} {value : Nat} (numeral : Unsigned chars value) :
      Signed chars value
  | minus {digits : List Char} (isDecimal : IsDecimal digits) :
      Signed ('-' :: digits) (-(Nat.ofDigitChars 10 digits 0 : Int))

/-! ## Digits -/

theorem digitsValue_eq (digits : List Char) : digitsValue digits = Nat.ofDigitChars 10 digits 0 := by
  simp only [digitsValue, Nat.ofDigitChars, Nat.mul_comm]

/-- Only digits, and at least one of them, are read as a number. -/
theorem digitsValue?_eq_some_iff {chars : List Char} {value : Nat} :
    digitsValue? chars = some value ↔ IsDecimal chars ∧ value = Nat.ofDigitChars 10 chars 0 := by
  rw [digitsValue?, digitsValue_eq]
  constructor
  · intro read
    split at read
    case isTrue only => exact ⟨⟨only.1, List.all_eq_true.mp only.2⟩, (Option.some.inj read).symm⟩
    case isFalse => cases read
  · rintro ⟨isDecimal, rfl⟩
    exact if_pos ⟨isDecimal.ne_nil, List.all_eq_true.mpr isDecimal.digits⟩

/-- A sign is no digit. -/
theorem IsDecimal.head_ne {c : Char} {rest : List Char} (isDecimal : IsDecimal (c :: rest)) :
    c ≠ '+' ∧ c ≠ '-' := by
  have digit := isDecimal.digits c List.mem_cons_self
  constructor
  · rintro rfl
    exact absurd digit (by decide)
  · rintro rfl
    exact absurd digit (by decide)

/-- Digits have no sign to drop. -/
theorem dropPlus_of_isDecimal {chars : List Char} (isDecimal : IsDecimal chars) :
    dropPlus chars = chars := by
  cases chars with
  | nil => rfl
  | cons c rest => simp [dropPlus, isDecimal.head_ne.1]

/-! ## Numerals -/

/-- A number without a sign may have a plus in front. -/
theorem digitsValue?_dropPlus_eq_some_iff {chars : List Char} {value : Nat} :
    digitsValue? (dropPlus chars) = some value ↔ Unsigned chars value := by
  rw [digitsValue?_eq_some_iff]
  constructor
  · rintro ⟨isDecimal, rfl⟩
    cases chars with
    | nil => exact absurd rfl isDecimal.ne_nil
    | cons c rest =>
        by_cases sign : c = '+'
        · subst sign
          exact .plus isDecimal
        · have same : dropPlus (c :: rest) = c :: rest := by
            simp [dropPlus, sign]
          rw [same] at isDecimal ⊢
          exact .plain isDecimal
  · intro numeral
    cases numeral with
    | plain isDecimal =>
        rw [dropPlus_of_isDecimal isDecimal]
        exact ⟨isDecimal, rfl⟩
    | plus isDecimal => exact ⟨isDecimal, rfl⟩

/-- A minus makes the number behind it negative. -/
theorem readSigned?_minus (rest : List Char) :
    readSigned? ('-' :: rest) = (digitsValue? rest).map fun value : Nat => -(value : Int) := by
  cases found : digitsValue? rest <;> simp [readSigned?, found]

theorem readSigned?_of_no_minus {chars : List Char} (noMinus : ∀ rest, chars ≠ '-' :: rest) :
    readSigned? chars = (digitsValue? (dropPlus chars)).map fun value : Nat => (value : Int) := by
  rw [readSigned?.eq_2 chars noMinus]
  cases digitsValue? (dropPlus chars) <;> rfl

/-- Signed numerals are read as the numbers that they stand for, and nothing else is read. -/
theorem readSigned?_eq_some_iff {chars : List Char} {value : Int} :
    readSigned? chars = some value ↔ Signed chars value := by
  constructor
  · intro read
    by_cases sign : ∃ rest, chars = '-' :: rest
    · obtain ⟨rest, rfl⟩ := sign
      rw [readSigned?_minus] at read
      obtain ⟨size, found, rfl⟩ := Option.map_eq_some_iff.mp read
      obtain ⟨isDecimal, rfl⟩ := digitsValue?_eq_some_iff.mp found
      exact .minus isDecimal
    · rw [readSigned?_of_no_minus (not_exists.mp sign)] at read
      obtain ⟨size, found, rfl⟩ := Option.map_eq_some_iff.mp read
      exact .unsigned (digitsValue?_dropPlus_eq_some_iff.mp found)
  · intro numeral
    cases numeral with
    | minus isDecimal =>
        have found := digitsValue?_eq_some_iff.mpr ⟨isDecimal, rfl⟩
        rw [readSigned?_minus, found]
        rfl
    | unsigned numeral =>
        have noMinus : ∀ rest, chars ≠ '-' :: rest := by
          rintro rest rfl
          cases numeral with
          | plain isDecimal => exact isDecimal.head_ne.2 rfl
        have found := digitsValue?_dropPlus_eq_some_iff.mpr numeral
        rw [readSigned?_of_no_minus noMinus, found]
        rfl

/-- A text is read as a number below the limit exactly if it is a numeral of it. -/
theorem readNatural?_eq_some_iff {limit value : Nat} {text : String} :
    readNatural? limit text = some value ↔ Unsigned text.toList value ∧ value < limit := by
  rw [readNatural?, ← digitsValue?_dropPlus_eq_some_iff]
  cases found : digitsValue? (dropPlus text.toList) with
  | none => simp
  | some size =>
      simp only [Option.bind_eq_bind, Option.bind_some, Option.some.injEq]
      constructor
      · intro read
        split at read
        · obtain rfl := Option.some.inj read
          exact ⟨rfl, by assumption⟩
        · cases read
      · rintro ⟨rfl, small⟩
        exact if_pos small

/-- The numbers of a word are the values of the numerals that fit one. -/
theorem readUInt32?_eq_some_iff {text : String} {word : UInt32} :
    readUInt32? text = some word ↔ Unsigned text.toList word.toNat := by
  rw [readUInt32?, Option.map_eq_some_iff]
  constructor
  · rintro ⟨value, read, rfl⟩
    obtain ⟨numeral, small⟩ := readNatural?_eq_some_iff.mp read
    rwa [UInt32.toNat_ofNat_of_lt' small]
  · intro numeral
    exact ⟨word.toNat, readNatural?_eq_some_iff.mpr ⟨numeral, word.toNat_lt_size⟩,
      UInt32.ofNat_toNat⟩

/-- A text is read as an exit code exactly if it is a signed numeral of one that fits. -/
theorem readInt32?_eq_some_iff {text : String} {word : Int32} :
    readInt32? text = some word ↔ Signed text.toList word.toInt := by
  rw [readInt32?, ← readSigned?_eq_some_iff]
  cases found : readSigned? text.toList with
  | none => simp
  | some value =>
      simp only [Option.bind_eq_bind, Option.bind_some, Option.some.injEq]
      constructor
      · intro read
        split at read
        case isFalse => cases read
        case isTrue fits =>
          obtain rfl := Option.some.inj read
          exact (Int32.toInt_ofInt_of_le fits.1 (Int.lt_add_one_of_le fits.2)).symm
      · rintro rfl
        rw [if_pos ⟨word.minValue_le_toInt, word.toInt_le⟩, Int32.ofInt_toInt]

/-! ## Writing numbers -/

/-- A number is written in digits, and in at least one. -/
theorem isDecimal_toDigits (value : Nat) : IsDecimal (Nat.toDigits 10 value) where
  ne_nil := Nat.toDigits_ne_nil
  digits := fun _ member => Nat.isDigit_of_mem_toDigits (by decide) (by decide) member

/-- A number is read back from its digits. -/
theorem unsigned_toString (value : Nat) : Unsigned (toString value).toList value := by
  have plain := Unsigned.plain (isDecimal_toDigits value)
  simpa using plain

theorem toList_toString_nat (value : Nat) :
    (toString (value : Int)).toList = Nat.toDigits 10 value := by
  show value.repr.toList = _
  simp

theorem toList_toString_negSucc (value : Nat) :
    (toString (Int.negSucc value)).toList = '-' :: Nat.toDigits 10 (value + 1) := by
  show ("-" ++ (value + 1).repr).toList = _
  simp

/-- A number that is written with its sign is a numeral of itself. -/
theorem signed_toString (value : Int) : Signed (toString value).toList value := by
  cases value with
  | ofNat value => exact .unsigned (unsigned_toString value)
  | negSucc value =>
      have minus := Signed.minus (isDecimal_toDigits (value + 1))
      rw [toList_toString_negSucc]
      simpa [Int.negSucc_eq] using minus

/-! ## Numerals as words -/

/-- No digit is blank. -/
theorem isBlank_of_isDigit {c : Char} (digit : c.isDigit = true) : isBlank c = false := by
  simp only [Char.isDigit, Bool.and_eq_true, decide_eq_true_eq, ge_iff_le] at digit
  have least : 48 ≤ c.toNat := UInt32.le_iff_toNat_le.mp digit.1
  have greatest : c.toNat ≤ 57 := UInt32.le_iff_toNat_le.mp digit.2
  simp only [isBlank, Bool.or_eq_false_iff, Bool.and_eq_false_iff, decide_eq_false_iff_not,
    beq_eq_false_iff_ne]
  omega

/-- Digits are a word. -/
theorem IsDecimal.isWord {chars : List Char} (isDecimal : IsDecimal chars) : IsWord chars where
  ne_nil := isDecimal.ne_nil
  visible := fun c member => isBlank_of_isDigit (isDecimal.digits c member)

theorem IsWord.cons {c : Char} {chars : List Char} (visible : isBlank c = false)
    (isWord : IsWord chars) : IsWord (c :: chars) where
  ne_nil := List.cons_ne_nil _ _
  visible := List.forall_mem_cons.mpr ⟨visible, isWord.visible⟩

/-- A numeral is a word, with or without a plus. -/
theorem isWord_of_unsigned {chars : List Char} {value : Nat} (numeral : Unsigned chars value) :
    IsWord chars := by
  cases numeral with
  | plain isDecimal => exact isDecimal.isWord
  | plus isDecimal => exact isDecimal.isWord.cons (by decide)

theorem isWord_of_signed {chars : List Char} {value : Int} (numeral : Signed chars value) :
    IsWord chars := by
  cases numeral with
  | unsigned numeral => exact isWord_of_unsigned numeral
  | minus isDecimal => exact isDecimal.isWord.cons (by decide)

end ProcessWatch.Text
