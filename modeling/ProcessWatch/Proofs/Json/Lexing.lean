/-
Module: ProcessWatch.Proofs.Json.Lexing
Purpose: The tokens of a written value: strings, numbers and words are read back as what they were
  written for, whatever follows them and however the text is laid out.
Trusted boundary: none
Main exports: Json.tokens, Json.Scans, Json.Closed, Json.Layout.IsBlank, Json.token?_quoted,
  Json.token?_integer, Json.scans_write, Json.tokens?_write
-/
import Mathlib.Tactic.SplitIfs
import ProcessWatch.Json.Printer
import ProcessWatch.Json.Token
import ProcessWatch.Proofs.Text.Numeral

namespace ProcessWatch.Json

/-! ## The tokens of a value -/

mutual

/-- The tokens that spell a value. -/
def tokens : Json → List Token
  | .array [] => [.openArray, .closeArray]
  | .array (item :: items) =>
      .openArray :: (tokens item ++ (tokensOfItems items ++ [.closeArray]))
  | .object [] => [.openObject, .closeObject]
  | .object ((name, value) :: members) =>
      .openObject :: .scalar (.string name) :: .colon ::
        (tokens value ++ (tokensOfMembers members ++ [.closeObject]))
  | scalar => [.scalar scalar]

/-- The tokens of the items that follow the first one. -/
def tokensOfItems : List Json → List Token
  | [] => []
  | item :: items => .comma :: (tokens item ++ tokensOfItems items)

/-- The tokens of the members that follow the first one. -/
def tokensOfMembers : List (String × Json) → List Token
  | [] => []
  | (name, value) :: members =>
      .comma :: .scalar (.string name) :: .colon :: (tokens value ++ tokensOfMembers members)

end

/-! ## Reading tokens -/

/-- What the format skips between tokens is blank. -/
theorem isSpace_of_isBlank {c : Char} (visible : Text.isBlank c = false) : isSpace c = false := by
  cases space : isSpace c with
  | false => rfl
  | true =>
      simp only [isSpace, Bool.or_eq_true, beq_iff_eq] at space
      rcases space with ((rfl | rfl) | rfl) | rfl
      all_goals exact absurd visible (by decide)

/-- The text has these tokens. -/
inductive Scans : List Char → List Token → Prop where
  | done : Scans [] []
  | space {c : Char} {rest : List Char} {tokens : List Token} (blank : isSpace c = true)
      (later : Scans rest tokens) : Scans (c :: rest) tokens
  /-- A token takes the front of the text, at least one character that is no blank. -/
  | token {c : Char} {spelled rest : List Char} {token : Token} {tokens : List Token}
      (visible : isSpace c = false)
      (read : token? (c :: (spelled ++ rest)) = some (token, rest))
      (later : Scans rest tokens) : Scans (c :: (spelled ++ rest)) (token :: tokens)

namespace Scans

variable {chars rest : List Char} {tokens : List Token}

/-- A budget of one for each character is enough. -/
theorem scan?_eq (scans : Scans chars tokens) {budget : Nat} (enough : chars.length ≤ budget) :
    scan? budget chars = some tokens := by
  induction scans generalizing budget with
  | done => cases budget <;> rfl
  | @space c rest tokens blank _ inductionHypothesis =>
      obtain ⟨budget, rfl⟩ := Nat.exists_eq_succ_of_ne_zero (Nat.ne_zero_of_lt enough)
      rw [scan?, if_pos blank]
      exact inductionHypothesis (Nat.le_of_succ_le_succ enough)
  | @token c spelled rest token tokens visible read _ inductionHypothesis =>
      obtain ⟨budget, rfl⟩ := Nat.exists_eq_succ_of_ne_zero (Nat.ne_zero_of_lt enough)
      have shorter : rest.length ≤ budget := by
        rw [List.length_cons, List.length_append] at enough
        omega
      rw [scan?, if_neg (by simp [visible]), read]
      simp [inductionHypothesis shorter]

theorem tokens?_eq (scans : Scans chars tokens) : tokens? chars = some tokens :=
  scans.scan?_eq (Nat.le_refl _)

/-- Spaces between tokens do not matter. -/
theorem blanks {spaces : List Char} (blank : ∀ c ∈ spaces, isSpace c = true)
    (later : Scans rest tokens) : Scans (spaces ++ rest) tokens := by
  induction spaces with
  | nil => exact later
  | cons c spaces inductionHypothesis =>
      obtain ⟨here, behind⟩ := List.forall_mem_cons.mp blank
      exact .space here (inductionHypothesis behind)

/-- A token of one character. -/
theorem mark {c : Char} {token : Token} (visible : isSpace c = false)
    (read : ∀ rest, token? (c :: rest) = some (token, rest)) (later : Scans rest tokens) :
    Scans (c :: rest) (token :: tokens) :=
  .token visible (read ([] ++ rest)) later

/-- A token that starts with no blank. -/
theorem front {spelled : List Char} {token : Token} (word : Text.IsWord spelled)
    (read : token? (spelled ++ rest) = some (token, rest)) (later : Scans rest tokens) :
    Scans (spelled ++ rest) (token :: tokens) := by
  cases spelled with
  | nil => exact absurd rfl word.ne_nil
  | cons c spelled =>
      exact .token (isSpace_of_isBlank (word.visible c List.mem_cons_self)) read later

end Scans

/-! ## Strings -/

theorem hexDigit?_hexDigit : ∀ value < 16, hexDigit? (hexDigit value) = some value := by decide

/-- The four digits of a control character name it. -/
theorem codeUnit?_control {c : Char} (control : c.toNat < 0x20) :
    codeUnit? '0' '0' (hexDigit (c.toNat / 16)) (hexDigit (c.toNat % 16)) = some c.toNat := by
  have zero : hexDigit? '0' = some 0 := rfl
  have high := hexDigit?_hexDigit (c.toNat / 16) (by omega)
  have low := hexDigit?_hexDigit (c.toNat % 16) (by omega)
  have value : ((0 * 16 + 0) * 16 + c.toNat / 16) * 16 + c.toNat % 16 = c.toNat := by omega
  simp only [codeUnit?, zero, high, low, Option.bind_eq_bind, Option.bind_some, value]
  rfl

theorem stringCodes?_letter {letter c : Char} (notCode : letter ≠ 'u')
    (stands : escaped? letter = some c) {rest after : List Char} {codes : List Nat}
    (later : stringCodes? rest = some (codes, after)) :
    stringCodes? ('\\' :: letter :: rest) = some (c.toNat :: codes, after) := by
  simp [stringCodes?, notCode, stands, later]

/-- A character is read back from its place in a string literal. -/
theorem stringCodes?_escape (c : Char) {rest after : List Char} {codes : List Nat}
    (later : stringCodes? rest = some (codes, after)) :
    stringCodes? (escape c ++ rest) = some (c.toNat :: codes, after) := by
  rw [escape]
  split_ifs with quote backslash backspace formFeed lineFeed carriageReturn tab control
  · exact stringCodes?_letter (by decide) (by rw [quote]; rfl) later
  · exact stringCodes?_letter (by decide) (by rw [backslash]; rfl) later
  · exact stringCodes?_letter (by decide) (by rw [backspace]; rfl) later
  · exact stringCodes?_letter (by decide) (by rw [formFeed]; rfl) later
  · exact stringCodes?_letter (by decide) (by rw [lineFeed]; rfl) later
  · exact stringCodes?_letter (by decide) (by rw [carriageReturn]; rfl) later
  · exact stringCodes?_letter (by decide) (by rw [tab]; rfl) later
  · simp [stringCodes?, codeUnit?_control control, later]
  · simp [stringCodes?, backslash, control, later]

/-- The characters of a string are read back up to the quote that ends it, whatever stands behind. -/
theorem stringCodes?_quoted (chars rest : List Char) :
    stringCodes? (chars.flatMap escape ++ ['"'] ++ rest) = some (chars.map Char.toNat, rest) := by
  induction chars with
  | nil => rfl
  | cons c chars inductionHypothesis =>
      rw [List.flatMap_cons, List.append_assoc, List.append_assoc, List.map_cons]
      rw [List.append_assoc] at inductionHypothesis
      exact stringCodes?_escape c inductionHypothesis

/-- No character is half of a surrogate pair. -/
theorem not_surrogate (c : Char) :
    isHighSurrogate c.toNat = false ∧ isLowSurrogate c.toNat = false := by
  have valid : c.toNat < 0xd800 ∨ 0xdfff < c.toNat ∧ c.toNat < 0x110000 := c.valid
  simp only [isHighSurrogate, isLowSurrogate, Bool.and_eq_false_iff, decide_eq_false_iff_not]
  omega

theorem charsOfCodes?_cons (c : Char) (codes : List Nat) :
    charsOfCodes? (c.toNat :: codes) = (charsOfCodes? codes).map (c :: ·) := by
  obtain ⟨notHigh, notLow⟩ := not_surrogate c
  cases codes <;> simp [charsOfCodes?, notHigh, notLow, Char.ofNat_toNat]

/-- The codes of whole characters are read back as these characters. -/
theorem charsOfCodes?_toNat (chars : List Char) :
    charsOfCodes? (chars.map Char.toNat) = some chars := by
  induction chars with
  | nil => rfl
  | cons c chars inductionHypothesis =>
      rw [List.map_cons, charsOfCodes?_cons, inductionHypothesis, Option.map_some]

theorem ofCodes_toList (text : String) : ofCodes (text.toList.map Char.toNat) = .string text := by
  simp [ofCodes, charsOfCodes?_toNat]

/-- A string literal is read back as its text. -/
theorem token?_quoted (text : String) (rest : List Char) :
    token? (quoted text ++ rest) = some (.scalar (.string text), rest) := by
  have read := stringCodes?_quoted text.toList rest
  rw [quoted, List.cons_append, token?, read, Option.map_some, ← ofCodes_toList]

/-- The literal with half of a surrogate pair stands for no text. -/
theorem token?_unpaired (rest : List Char) :
    token? (['"', '\\', 'u', 'd', '8', '0', '0', '"'] ++ rest) = some (.scalar .unpaired, rest) := by
  simp [token?, stringCodes?, codeUnit?, hexDigit?, ofCodes, charsOfCodes?, isHighSurrogate]

/-! ## Numbers -/

/-- The character can stand in a number behind its first digit. -/
def continuesNumber (c : Char) : Bool := c.isDigit || c == '.' || c == 'e' || c == 'E'

/-- A number that ends here does not go on. -/
def Closed (rest : List Char) : Prop := ∀ c, rest.head? = some c → continuesNumber c = false

theorem closed_cons {c : Char} (ends : continuesNumber c = false) (rest : List Char) :
    Closed (c :: rest) := by
  intro head same
  obtain rfl := Option.some.inj same
  exact ends

namespace Closed

variable {rest : List Char}

/-- No digit of what follows is taken for one of a number before it. -/
theorem takeWhile_isDigit (closed : Closed rest) : rest.takeWhile Char.isDigit = [] := by
  cases rest with
  | nil => rfl
  | cons c rest =>
      have ends := closed c rfl
      simp only [continuesNumber, Bool.or_eq_false_iff] at ends
      exact List.takeWhile_cons_of_neg (by simp [ends.1.1.1])

theorem dropWhile_isDigit (closed : Closed rest) : rest.dropWhile Char.isDigit = rest := by
  have parted := List.takeWhile_append_dropWhile (p := Char.isDigit) (l := rest)
  rwa [closed.takeWhile_isDigit, List.nil_append] at parted

/-- A run of digits is read up to its end. -/
theorem digits?_append (closed : Closed rest) {digits : List Char}
    (isDecimal : Text.IsDecimal digits) : digits? (digits ++ rest) = some (digits, rest) := by
  have notEmpty : digits.isEmpty = false := by simpa using isDecimal.ne_nil
  have run : (digits ++ rest).takeWhile Char.isDigit = digits := by
    rw [List.takeWhile_append_of_pos isDecimal.digits, closed.takeWhile_isDigit, List.append_nil]
  have behind : (digits ++ rest).dropWhile Char.isDigit = rest := by
    rw [List.dropWhile_append_of_pos isDecimal.digits, closed.dropWhile_isDigit]
  simp [digits?, run, behind, notEmpty]

/-- What follows a number is not read as its fraction. -/
theorem fraction?_eq (closed : Closed rest) : fraction? rest = some (none, rest) := by
  unfold fraction?
  split
  · exact absurd (closed '.' rfl) (by decide)
  · rfl

theorem exponent?_eq (closed : Closed rest) : exponent? rest = some (none, rest) := by
  unfold exponent?
  split
  · exact absurd (closed 'e' rfl) (by decide)
  · exact absurd (closed 'E' rfl) (by decide)
  · rfl

end Closed

/-- Only zero is written with a zero in front. -/
theorem head?_toDigits {value : Nat} (positive : 0 < value) :
    (Nat.toDigits 10 value).head? ≠ some '0' := by
  induction value using Nat.strongRecOn with
  | ind value inductionHypothesis =>
      rcases Nat.lt_or_ge value 10 with small | large
      · rw [Nat.toDigits_of_lt_base small]
        have nonzero : ∀ digit < 10, 0 < digit → [Nat.digitChar digit].head? ≠ some '0' := by decide
        exact nonzero value small positive
      · have shorter := inductionHypothesis (value / 10) (by omega) (by omega)
        rw [Nat.toDigits_of_base_le (by decide) large, List.head?_append]
        cases digits : Nat.toDigits 10 (value / 10) with
        | nil => exact absurd digits Nat.toDigits_ne_nil
        | cons c more =>
            rw [digits] at shorter
            exact shorter

/-- A number is written without leading zeros, so that its digits are read up to what follows it. -/
theorem wholeDigits?_toDigits (value : Nat) {rest : List Char} (closed : Closed rest) :
    wholeDigits? (Nat.toDigits 10 value ++ rest) = some (Nat.toDigits 10 value, rest) := by
  have noLeadingZero :
      ¬ ((Nat.toDigits 10 value).head? = some '0' ∧ (Nat.toDigits 10 value).length ≠ 1) := by
    rintro ⟨zero, long⟩
    rcases Nat.eq_zero_or_pos value with rfl | positive
    · exact long rfl
    · exact head?_toDigits positive zero
  rw [wholeDigits?, closed.digits?_append (Text.isDecimal_toDigits value)]
  simp only [Option.bind_eq_bind, Option.bind_some, if_neg noLeadingZero]

theorem digitsValue_toDigits (value : Nat) : Text.digitsValue (Nat.toDigits 10 value) = value := by
  rw [Text.digitsValue_eq, Nat.ofDigitChars_toDigits (by decide) (by decide)]

/-- The digits of a number are read back as this number; zero has no minus. -/
theorem unsigned?_toDigits {negative : Bool} {value : Nat} (noMinusZero : negative = true → value ≠ 0)
    {rest : List Char} (closed : Closed rest) :
    unsigned? negative (Nat.toDigits 10 value ++ rest) =
      some (.integer (if negative then -value else value), rest) := by
  simp only [unsigned?, wholeDigits?_toDigits value closed, closed.fraction?_eq,
    closed.exponent?_eq, digitsValue_toDigits, Option.bind_eq_bind, Option.bind_some]
  rw [if_pos (by cases negative <;> simp_all)]
  rfl

/-- No other token starts with a digit. -/
theorem token?_of_isDigit {c : Char} (digit : c.isDigit = true) (rest : List Char) :
    token? (c :: rest) =
      (unsigned? false (c :: rest)).map fun (value, rest) => (.scalar value, rest) := by
  have noMinus : c ≠ '-' := by
    rintro rfl
    cases digit
  have number : number? (c :: rest) = unsigned? false (c :: rest) := by
    simp [number?, noMinus]
  rw [← number]
  unfold token?
  split <;> simp_all

/-- A number is read back from its digits. -/
theorem token?_toDigits (value : Nat) {rest : List Char} (closed : Closed rest) :
    token? (Nat.toDigits 10 value ++ rest) = some (.scalar (.integer value), rest) := by
  have read : unsigned? false (Nat.toDigits 10 value ++ rest) = some (.integer value, rest) :=
    unsigned?_toDigits (by simp) closed
  have isDecimal := Text.isDecimal_toDigits value
  cases digits : Nat.toDigits 10 value with
  | nil => exact absurd digits isDecimal.ne_nil
  | cons c more =>
      rw [digits] at read isDecimal
      rw [List.cons_append, token?_of_isDigit (isDecimal.digits c List.mem_cons_self),
        ← List.cons_append, read, Option.map_some]

/-- A written integer is read back as the same integer. -/
theorem token?_integer (value : Int) {rest : List Char} (closed : Closed rest) :
    token? ((toString value).toList ++ rest) = some (.scalar (.integer value), rest) := by
  cases value with
  | ofNat value =>
      rw [Int.ofNat_eq_natCast, Text.toList_toString_nat]
      exact token?_toDigits value closed
  | negSucc value =>
      have read : unsigned? true (Nat.toDigits 10 (value + 1) ++ rest) =
          some (.integer (-(value + 1 : Nat)), rest) := unsigned?_toDigits (by simp) closed
      rw [Text.toList_toString_negSucc, List.cons_append]
      simp [token?, number?, read, Int.negSucc_eq]

/-- Any other number is read back as what is kept of it. -/
theorem token?_decimal_inRange {rest : List Char} (closed : Closed rest) :
    token? (['0', '.', '0'] ++ rest) = some (.scalar (.decimal true), rest) := by
  have whole : wholeDigits? ('0' :: '.' :: '0' :: rest) = some (['0'], '.' :: '0' :: rest) := rfl
  have zero : digits? ('0' :: rest) = some (['0'], rest) :=
    closed.digits?_append (Text.isDecimal_toDigits 0)
  have inRange : isInDoubleRange ['0'] ['0'] 0 = true := by decide
  show token? ('0' :: '.' :: '0' :: rest) = _
  rw [token?_of_isDigit (by decide)]
  simp [unsigned?, whole, fraction?, zero, closed.exponent?_eq, inRange]

/-- A number beyond all doubles is still a token. -/
theorem token?_decimal_beyond {rest : List Char} (closed : Closed rest) :
    token? (['1', 'e', '9', '9', '9'] ++ rest) = some (.scalar (.decimal false), rest) := by
  have whole : wholeDigits? ('1' :: 'e' :: '9' :: '9' :: '9' :: rest) =
      some (['1'], 'e' :: '9' :: '9' :: '9' :: rest) := rfl
  have digits : digits? ('9' :: '9' :: '9' :: rest) = some (['9', '9', '9'], rest) :=
    closed.digits?_append (Text.isDecimal_toDigits 999)
  have value : Text.digitsValue ['9', '9', '9'] = 999 := rfl
  have beyond : isInDoubleRange ['1'] [] 999 = false := by decide
  show token? ('1' :: 'e' :: '9' :: '9' :: '9' :: rest) = _
  rw [token?_of_isDigit (by decide)]
  simp [unsigned?, whole, fraction?, exponent?, signedDigits?, digits, value, beyond]

/-! ## Written values -/

/-- Between the tokens of a written value there are blanks at most. -/
structure Layout.IsBlank (layout : Layout) : Prop where
  lineBreak : ∀ depth, ∀ c ∈ layout.lineBreak depth, isSpace c = true
  afterColon : ∀ c ∈ layout.afterColon, isSpace c = true

/-- A layout on one line puts nothing but blanks between the parts of a value. -/
theorem Layout.isBlank_compact : Layout.compact.IsBlank where
  lineBreak := fun _ _ member => absurd member List.not_mem_nil
  afterColon := fun _ member => absurd member List.not_mem_nil

theorem Layout.isBlank_pretty : Layout.pretty.IsBlank where
  lineBreak := by
    intro depth c member
    rcases List.mem_cons.mp member with rfl | indent
    · rfl
    · rw [List.eq_of_mem_replicate indent]
      rfl
  afterColon := by
    intro c member
    rw [List.mem_singleton.mp member]
    rfl

/-- No blank continues a number. -/
theorem closed_blanks {spaces rest : List Char} (blank : ∀ c ∈ spaces, isSpace c = true)
    (closed : Closed rest) : Closed (spaces ++ rest) := by
  cases spaces with
  | nil => exact closed
  | cons c spaces =>
      have space := blank c List.mem_cons_self
      simp only [isSpace, Bool.or_eq_true, beq_iff_eq] at space
      apply closed_cons
      rcases space with ((rfl | rfl) | rfl) | rfl
      all_goals rfl

section Written

variable {layout : Layout} {rest : List Char} {after : List Token}

/-- What is written behind an item continues no number: it is a comma, a bracket or blank. -/
theorem closed_writeItems (depth : Nat) (items : List Json) (closed : Closed rest) :
    Closed (writeItems layout depth items ++ rest) := by
  cases items with
  | nil => exact closed
  | cons item items => exact closed_cons rfl _

theorem closed_writeMembers (depth : Nat) (members : List (String × Json)) (closed : Closed rest) :
    Closed (writeMembers layout depth members ++ rest) := by
  cases members with
  | nil => exact closed
  | cons member members => exact closed_cons rfl _

/-- Written values without parts are one token each. -/
theorem scans_null (depth : Nat) (later : Scans rest after) :
    Scans (write layout depth .null ++ rest) (tokens .null ++ after) := by
  show Scans (['n', 'u', 'l', 'l'] ++ rest) (.scalar .null :: after)
  exact .front (Text.isWord_of_all rfl rfl) rfl later

theorem scans_bool (depth : Nat) (value : Bool) (later : Scans rest after) :
    Scans (write layout depth (.bool value) ++ rest) (tokens (.bool value) ++ after) := by
  cases value with
  | true =>
      show Scans (['t', 'r', 'u', 'e'] ++ rest) (.scalar (.bool true) :: after)
      exact .front (Text.isWord_of_all rfl rfl) rfl later
  | false =>
      show Scans (['f', 'a', 'l', 's', 'e'] ++ rest) (.scalar (.bool false) :: after)
      exact .front (Text.isWord_of_all rfl rfl) rfl later

/-- A whole number is read as one token as long as what follows does not continue it. -/
theorem scans_integer (depth : Nat) (value : Int) (closed : Closed rest)
    (later : Scans rest after) :
    Scans (write layout depth (.integer value) ++ rest) (tokens (.integer value) ++ after) :=
  .front (Text.isWord_of_signed (Text.signed_toString value)) (token?_integer value closed) later

theorem scans_decimal (depth : Nat) (inRange : Bool) (closed : Closed rest)
    (later : Scans rest after) :
    Scans (write layout depth (.decimal inRange) ++ rest) (tokens (.decimal inRange) ++ after) := by
  cases inRange with
  | true =>
      show Scans (['0', '.', '0'] ++ rest) (.scalar (.decimal true) :: after)
      exact .front (Text.isWord_of_all rfl rfl) (token?_decimal_inRange closed) later
  | false =>
      show Scans (['1', 'e', '9', '9', '9'] ++ rest) (.scalar (.decimal false) :: after)
      exact .front (Text.isWord_of_all rfl rfl) (token?_decimal_beyond closed) later

theorem scans_unpaired (depth : Nat) (later : Scans rest after) :
    Scans (write layout depth .unpaired ++ rest) (tokens .unpaired ++ after) := by
  show Scans (['"', '\\', 'u', 'd', '8', '0', '0', '"'] ++ rest) (.scalar .unpaired :: after)
  exact .front (Text.isWord_of_all rfl rfl) (token?_unpaired rest) later

/-- A string is read as one token, whatever follows it. -/
theorem scans_quoted (text : String) (later : Scans rest after) :
    Scans (quoted text ++ rest) (.scalar (.string text) :: after) :=
  .token rfl (token?_quoted text rest) later

/-- The name of a member is read together with the colon behind it. -/
theorem scans_memberName (blank : layout.IsBlank) (name : String) (later : Scans rest after) :
    Scans (quoted name ++ (':' :: (layout.afterColon ++ rest)))
      (.scalar (.string name) :: .colon :: after) :=
  scans_quoted name (.mark rfl (fun _ => rfl) (.blanks blank.afterColon later))

mutual

/-- A written value is read as its tokens, whatever follows it that does not continue a number. -/
theorem scans_write (blank : layout.IsBlank) (depth : Nat) :
    ∀ (value : Json) {rest : List Char} {after : List Token}, Closed rest → Scans rest after →
      Scans (write layout depth value ++ rest) (value.tokens ++ after)
  | .null, _, _, _, later => scans_null depth later
  | .bool value, _, _, _, later => scans_bool depth value later
  | .integer value, _, _, closed, later => scans_integer depth value closed later
  | .decimal inRange, _, _, closed, later => scans_decimal depth inRange closed later
  | .string text, _, _, _, later => scans_quoted text later
  | .unpaired, _, _, _, later => scans_unpaired depth later
  | .array [], _, _, _, later => .mark rfl (fun _ => rfl) (.mark rfl (fun _ => rfl) later)
  | .array (item :: items), rest, after, _, later => by
      have closing : Scans (layout.lineBreak depth ++ ']' :: rest) (.closeArray :: after) :=
        .blanks (blank.lineBreak depth) (.mark rfl (fun _ => rfl) later)
      have ends : Closed (layout.lineBreak depth ++ ']' :: rest) :=
        closed_blanks (blank.lineBreak depth) (closed_cons rfl rest)
      have others := scans_writeItems blank (depth + 1) items ends closing
      have first := scans_write blank (depth + 1) item
        (closed_writeItems (depth + 1) items ends) others
      simp only [write, tokens, List.cons_append, List.append_assoc, List.nil_append]
      exact .mark rfl (fun _ => rfl) (.blanks (blank.lineBreak (depth + 1)) first)
  | .object [], _, _, _, later => .mark rfl (fun _ => rfl) (.mark rfl (fun _ => rfl) later)
  | .object ((name, value) :: members), rest, after, _, later => by
      have closing : Scans (layout.lineBreak depth ++ '\x7d' :: rest) (.closeObject :: after) :=
        .blanks (blank.lineBreak depth) (.mark rfl (fun _ => rfl) later)
      have ends : Closed (layout.lineBreak depth ++ '\x7d' :: rest) :=
        closed_blanks (blank.lineBreak depth) (closed_cons rfl rest)
      have others := scans_writeMembers blank (depth + 1) members ends closing
      have first := scans_write blank (depth + 1) value
        (closed_writeMembers (depth + 1) members ends) others
      have named := scans_memberName blank name first
      simp only [write, tokens, List.cons_append, List.append_assoc, List.nil_append]
      exact .mark rfl (fun _ => rfl) (.blanks (blank.lineBreak (depth + 1)) named)

/-- The items of an array are read one after the other. -/
theorem scans_writeItems (blank : layout.IsBlank) (depth : Nat) :
    ∀ (items : List Json) {rest : List Char} {after : List Token}, Closed rest →
      Scans rest after →
      Scans (writeItems layout depth items ++ rest) (tokensOfItems items ++ after)
  | [], _, _, _, later => later
  | item :: items, rest, after, closed, later => by
      have others := scans_writeItems blank depth items closed later
      have first := scans_write blank depth item (closed_writeItems depth items closed) others
      simp only [writeItems, tokensOfItems, List.cons_append, List.append_assoc]
      exact .mark rfl (fun _ => rfl) (.blanks (blank.lineBreak depth) first)

theorem scans_writeMembers (blank : layout.IsBlank) (depth : Nat) :
    ∀ (members : List (String × Json)) {rest : List Char} {after : List Token}, Closed rest →
      Scans rest after →
      Scans (writeMembers layout depth members ++ rest) (tokensOfMembers members ++ after)
  | [], _, _, _, later => later
  | (name, value) :: members, rest, after, closed, later => by
      have others := scans_writeMembers blank depth members closed later
      have first := scans_write blank depth value (closed_writeMembers depth members closed) others
      have named := scans_memberName blank name first
      simp only [writeMembers, tokensOfMembers, List.cons_append, List.append_assoc]
      exact .mark rfl (fun _ => rfl) (.blanks (blank.lineBreak depth) named)

end

/-- The tokens of a written text are those of its value. -/
theorem tokens?_write (blank : layout.IsBlank) (depth : Nat) (value : Json) :
    tokens? (write layout depth value) = some value.tokens := by
  have closed : Closed [] := by
    intro c here
    cases here
  have scans := scans_write blank depth value closed .done
  rw [List.append_nil, List.append_nil] at scans
  exact scans.tokens?_eq

end Written

end ProcessWatch.Json
