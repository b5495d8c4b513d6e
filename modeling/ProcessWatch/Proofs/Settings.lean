/-
Module: ProcessWatch.Proofs.Settings
Purpose: Which variables settings are read from and what they come to, why all others are refused, and
  that settings which were read are used as they are.
Trusted boundary: none
Main exports: Settings.Denotes, Settings.Holds, Settings.Affirms, Settings.Chosen, Settings.Refused,
  Settings.ofEnvironment_eq_ok_iff, Settings.ofEnvironment_eq_error_iff, Settings.environment,
  Settings.accepted_iff_positive
-/
import ProcessWatch.Console.Session
import ProcessWatch.Proofs.Encoding.RoundTrip
import ProcessWatch.Proofs.Text.Numeral
import ProcessWatch.Proofs.Text.Trim

namespace ProcessWatch

/-! ## Cases of letters -/

namespace Text

/-- Only the capital letters of ASCII have a small letter of their own here. -/
theorem toNat_toLower (c : Char) :
    c.toLower.toNat = if 65 ≤ c.toNat ∧ c.toNat ≤ 90 then c.toNat + 32 else c.toNat := by
  have capital : (c.val ≥ 'A'.val ∧ c.val ≤ 'Z'.val) ↔ 65 ≤ c.toNat ∧ c.toNat ≤ 90 := Iff.rfl
  unfold Char.toLower
  split
  case isTrue isCapital =>
    have bounds := capital.mp isCapital
    rw [if_pos bounds]
    show (c.val + 32).toNat = c.toNat + 32
    exact (UInt32.toNat_add c.val 32).trans (Nat.mod_eq_of_lt (by simp; omega))
  case isFalse other => rw [if_neg (mt capital.mpr other)]

/-- A character has a letter for its lower case exactly if it is this letter or its capital. -/
theorem toLower_eq_iff {c lower capital : Char} (isLower : 97 ≤ lower.toNat ∧ lower.toNat ≤ 122)
    (isCapital : capital.toNat + 32 = lower.toNat) : c.toLower = lower ↔ c ∈ [lower, capital] := by
  simp only [List.mem_cons, List.not_mem_nil, or_false, ← Char.toNat_inj, toNat_toLower]
  split <;> omega

end Text

namespace Settings

/-! ## What variables say -/

/-- Between the blanks around it the text is a numeral that fits a word, and this is its value. -/
inductive Denotes (text : String) : Nat → Prop where
  | numeral {digits : List Char} {value : Nat} (trims : Text.Trims text.toList digits)
      (numeral : Text.Unsigned digits value) (fits : value < Word.size) : Denotes text value

/-- What a variable that is meant to hold a number says: the default if it is not set. -/
inductive Holds (default : Nat) : Option String → Nat → Prop where
  | unset : Holds default none default
  | set {text : String} {value : Nat} (denotes : Denotes text value) :
      Holds default (some text) value

/-- The variable is not set, or set to a number that is at least one. -/
def IsPositive (content : Option String) : Prop :=
  ∀ text, content = some text → ∃ value, Denotes text value ∧ 0 < value

/-- Between the blanks around it the text is `1`, or `true` in any mixture of cases. -/
inductive Affirms (text : String) : Prop where
  | one (trims : Text.Trims text.toList ['1'])
  | word {first second third fourth : Char}
      (trims : Text.Trims text.toList [first, second, third, fourth])
      (t : first ∈ ['t', 'T']) (r : second ∈ ['r', 'R']) (u : third ∈ ['u', 'U'])
      (e : fourth ∈ ['e', 'E'])

section Environment

variable (lookup : String → Option String)

/-- The settings that some variables choose. -/
structure Chosen (settings : Settings) : Prop where
  capacity : Holds Store.defaultCapacity (lookup Variable.capacity.name) settings.capacity
  listLimit : Holds Listing.defaultLimit (lookup Variable.listLimit.name) settings.listLimit
  traceJson : settings.traceJson = true ↔ ∃ text, lookup traceVariable = some text ∧ Affirms text
  capacity_pos : 0 < settings.capacity
  listLimit_pos : 0 < settings.listLimit

/-- The variable is set to a text that is no number. -/
structure Unreadable (source : Variable) (text : String) : Prop where
  given : lookup source.name = some text
  no_number : ∀ value, ¬ Denotes text value

/-- What some variables are refused for.  Texts that are no numbers come before numbers that are zero,
and in both cases the capacity comes before the limit of listings. -/
inductive Refused : Fault → Prop where
  | capacityText {text : String} (unreadable : Unreadable lookup .capacity text) :
      Refused (.notNumber .capacity text)
  | listLimitText {capacity : Nat} {text : String}
      (read : Holds Store.defaultCapacity (lookup Variable.capacity.name) capacity)
      (unreadable : Unreadable lookup .listLimit text) : Refused (.notNumber .listLimit text)
  | zeroCapacity {listLimit : Nat}
      (zero : Holds Store.defaultCapacity (lookup Variable.capacity.name) 0)
      (read : Holds Listing.defaultLimit (lookup Variable.listLimit.name) listLimit) :
      Refused .zeroCapacity
  | zeroListLimit {capacity : Nat}
      (read : Holds Store.defaultCapacity (lookup Variable.capacity.name) capacity)
      (positive : 0 < capacity)
      (zero : Holds Listing.defaultLimit (lookup Variable.listLimit.name) 0) :
      Refused .zeroListLimit

end Environment

/-! ## One variable -/

variable {lookup : String → Option String} {source : Variable} {default value : Nat}

/-- A text denotes what its trimmed form is read as. -/
theorem denotes_iff {text : String} :
    Denotes text value ↔ Text.readNatural? Word.size (Text.trim text) = some value := by
  rw [Text.readNatural?_eq_some_iff]
  constructor
  · rintro ⟨trims, numeral, fits⟩
    rw [Text.trim, trims.dropBlanks_eq, String.toList_ofList]
    exact ⟨numeral, fits⟩
  · rintro ⟨numeral, fits⟩
    exact .numeral (Text.trim_eq_iff.mp rfl) numeral fits

/-- A variable that holds a value gives it, also as a default. -/
theorem number_of_holds (holds : Holds default (lookup source.name) value) :
    number lookup source default = .ok value := by
  rw [number]
  generalize lookup source.name = content at holds
  cases holds with
  | unset => rfl
  | set denotes => simp only [denotes_iff.mp denotes]

/-- A variable that holds something else is refused with its text. -/
theorem number_of_unreadable {text : String} (unreadable : Unreadable lookup source text) :
    number lookup source default = .error (.notNumber source text) := by
  have unread : Text.readNatural? Word.size (Text.trim text) = none := by
    rw [Option.eq_none_iff_forall_ne_some]
    exact fun value read => unreadable.no_number value (denotes_iff.mpr read)
  simp only [number, unreadable.given, unread]

/-- A variable holds a number, or it is set to a text that is none. -/
theorem holds_or_unreadable (lookup : String → Option String) (source : Variable) (default : Nat) :
    (∃ value, Holds default (lookup source.name) value) ∨ ∃ text, Unreadable lookup source text := by
  cases given : lookup source.name with
  | none => exact .inl ⟨default, .unset⟩
  | some text =>
      by_cases denotes : ∃ value, Denotes text value
      · obtain ⟨value, denotes⟩ := denotes
        exact .inl ⟨value, .set denotes⟩
      · exact .inr ⟨text, given, not_exists.mp denotes⟩

/-- If the default is positive, a variable may stay unset. -/
theorem isPositive_iff (positive : 0 < default) {content : Option String} :
    IsPositive content ↔ ∃ value, Holds default content value ∧ 0 < value := by
  constructor
  · intro isPositive
    cases content with
    | none => exact ⟨default, .unset, positive⟩
    | some text =>
        obtain ⟨value, denotes, positive⟩ := isPositive text rfl
        exact ⟨value, .set denotes, positive⟩
  · rintro ⟨value, holds, positive⟩ text rfl
    cases holds with
    | set denotes => exact ⟨value, denotes, positive⟩

/-- A switch is on exactly if its text affirms it. -/
theorem saysYes_iff (text : String) : saysYes text = true ↔ Affirms text := by
  have trims := Text.trim_eq_iff.mp (rfl : Text.trim text = Text.trim text)
  simp only [saysYes, Bool.or_eq_true, decide_eq_true_eq]
  constructor
  · rintro (one | word)
    · rw [one] at trims
      exact .one trims
    · obtain ⟨first, second, third, fourth, spelled⟩ :
          ∃ first second third fourth,
            (Text.trim text).toList = [first, second, third, fourth] :=
        List.length_eq_four.mp (by simpa using congrArg List.length word)
      rw [spelled] at word trims
      injection word with t word
      injection word with r word
      injection word with u word
      injection word with e _
      exact .word trims
        ((Text.toLower_eq_iff (by decide) (by decide)).mp t)
        ((Text.toLower_eq_iff (by decide) (by decide)).mp r)
        ((Text.toLower_eq_iff (by decide) (by decide)).mp u)
        ((Text.toLower_eq_iff (by decide) (by decide)).mp e)
  · intro affirms
    have same : ∀ {value}, Text.Trims text.toList value → (Text.trim text).toList = value :=
      fun trims => by rw [Text.trim, String.toList_ofList, trims.dropBlanks_eq]
    cases affirms with
    | one trims => exact .inl (same trims)
    | word trims t r u e =>
        right
        rw [same trims]
        simp only [List.map_cons, List.map_nil,
          (Text.toLower_eq_iff (by decide) (by decide)).mpr t,
          (Text.toLower_eq_iff (by decide) (by decide)).mpr r,
          (Text.toLower_eq_iff (by decide) (by decide)).mpr u,
          (Text.toLower_eq_iff (by decide) (by decide)).mpr e]

/-! ## All variables -/

/-- Settings are valid if there is room for a record and a listing may show one. -/
theorem validate_eq_ok_iff {settings : Settings} :
    settings.validate = .ok () ↔ 0 < settings.capacity ∧ 0 < settings.listLimit := by
  rw [validate, Nat.pos_iff_ne_zero, Nat.pos_iff_ne_zero]
  by_cases capacity : settings.capacity = 0
  · simp [capacity]
  · by_cases listLimit : settings.listLimit = 0 <;> simp [capacity, listLimit]

/-- How to log is read from one variable alone. -/
theorem traceJson_iff (lookup : String → Option String) :
    ((lookup traceVariable).map saysYes).getD false = true ↔
      ∃ text, lookup traceVariable = some text ∧ Affirms text := by
  cases lookup traceVariable with
  | none => simp
  | some text => simp [saysYes_iff]

/-- Once both numbers are read, they are checked. -/
theorem ofEnvironment_of_holds {capacity listLimit : Nat}
    (first : Holds Store.defaultCapacity (lookup Variable.capacity.name) capacity)
    (second : Holds Listing.defaultLimit (lookup Variable.listLimit.name) listLimit) :
    ofEnvironment lookup =
      let settings : Settings :=
        ⟨capacity, listLimit, ((lookup traceVariable).map saysYes).getD false⟩
      settings.validate.map fun _ => settings := by
  simp only [ofEnvironment, number_of_holds first, number_of_holds second, bind, Except.bind]
  rfl

/-- Settings that the environment chooses are accepted. -/
theorem ofEnvironment_of_chosen {settings : Settings} (chosen : Chosen lookup settings) :
    ofEnvironment lookup = .ok settings := by
  have traceJson : ((lookup traceVariable).map saysYes).getD false = settings.traceJson := by
    rw [Bool.eq_iff_iff, chosen.traceJson, traceJson_iff]
  rw [ofEnvironment_of_holds chosen.capacity chosen.listLimit, traceJson]
  simp only [validate_eq_ok_iff.mpr ⟨chosen.capacity_pos, chosen.listLimit_pos⟩, Except.map]

/-- A fault of the environment is reported. -/
theorem ofEnvironment_of_refused {fault : Fault} (refused : Refused lookup fault) :
    ofEnvironment lookup = .error fault := by
  cases refused with
  | capacityText unreadable =>
      simp only [ofEnvironment, number_of_unreadable unreadable, bind, Except.bind]
  | listLimitText read unreadable =>
      simp only [ofEnvironment, number_of_holds read, number_of_unreadable unreadable, bind,
        Except.bind]
  | zeroCapacity zero read =>
      rw [ofEnvironment_of_holds zero read]
      rfl
  | zeroListLimit read positive zero =>
      rw [ofEnvironment_of_holds read zero]
      simp only [validate, if_neg (Nat.ne_of_gt positive), if_pos, Except.map]

/-- Some settings are chosen, or there is something that the variables are refused for. -/
theorem chosen_or_refused (lookup : String → Option String) :
    (∃ settings, Chosen lookup settings) ∨ ∃ fault, Refused lookup fault := by
  rcases holds_or_unreadable lookup .capacity Store.defaultCapacity with
    ⟨capacity, first⟩ | ⟨text, unreadable⟩
  case inr => exact .inr ⟨_, .capacityText unreadable⟩
  rcases holds_or_unreadable lookup .listLimit Listing.defaultLimit with
    ⟨listLimit, second⟩ | ⟨text, unreadable⟩
  case inr => exact .inr ⟨_, .listLimitText first unreadable⟩
  rcases Nat.eq_zero_or_pos capacity with rfl | capacity_pos
  case inl => exact .inr ⟨_, .zeroCapacity first second⟩
  rcases Nat.eq_zero_or_pos listLimit with rfl | listLimit_pos
  case inl => exact .inr ⟨_, .zeroListLimit first capacity_pos second⟩
  exact .inl ⟨⟨capacity, listLimit, _⟩, first, second, traceJson_iff lookup, capacity_pos,
    listLimit_pos⟩

/-- Which settings come of an environment: those that it chooses. -/
theorem ofEnvironment_eq_ok_iff {settings : Settings} :
    ofEnvironment lookup = .ok settings ↔ Chosen lookup settings := by
  refine ⟨fun read => ?_, ofEnvironment_of_chosen⟩
  rcases chosen_or_refused lookup with ⟨chosen, isChosen⟩ | ⟨fault, refused⟩
  · obtain rfl := Except.ok.inj ((ofEnvironment_of_chosen isChosen).symm.trans read)
    exact isChosen
  · cases (ofEnvironment_of_refused refused).symm.trans read

/-- What an environment is refused for: the first fault that it has. -/
theorem ofEnvironment_eq_error_iff {fault : Fault} :
    ofEnvironment lookup = .error fault ↔ Refused lookup fault := by
  refine ⟨fun failed => ?_, ofEnvironment_of_refused⟩
  rcases chosen_or_refused lookup with ⟨chosen, isChosen⟩ | ⟨reported, refused⟩
  · cases (ofEnvironment_of_chosen isChosen).symm.trans failed
  · obtain rfl := Except.error.inj ((ofEnvironment_of_refused refused).symm.trans failed)
    exact refused

/-! ## Writing settings -/

/-- The variables that settings are written as. -/
def environment (settings : Settings) (name : String) : Option String :=
  [ (Variable.capacity.name, toString settings.capacity),
    (Variable.listLimit.name, toString settings.listLimit),
    (traceVariable, toString settings.traceJson) ].lookup name

/-- A number denotes itself when it is written out. -/
theorem denotes_toString (fits : value < Word.size) : Denotes (toString value) value :=
  have numeral := Text.unsigned_toString value
  .numeral (Text.isWord_of_unsigned numeral).trims numeral fits

theorem affirms_toString_iff (answer : Bool) : Affirms (toString answer) ↔ answer = true := by
  rw [← saysYes_iff]
  cases answer <;> decide

/-- Valid settings are what the variables choose that they are written as. -/
theorem chosen_environment {settings : Settings} (fits : settings.Fits)
    (valid : settings.validate = .ok ()) : Chosen settings.environment settings where
  capacity := .set (denotes_toString fits.capacity)
  listLimit := .set (denotes_toString fits.listLimit)
  traceJson := by
    have written : settings.environment traceVariable = some (toString settings.traceJson) := rfl
    simp only [written, Option.some.injEq, exists_eq_left', affirms_toString_iff]
  capacity_pos := (validate_eq_ok_iff.mp valid).1
  listLimit_pos := (validate_eq_ok_iff.mp valid).2

/-! ## Using settings -/

/-- Settings are read exactly if both numbers are left to their defaults or set to a number that is at
least one.  What is read is what the variables choose; it is valid, and neither the store nor the
console of a session alters it.  All other variables are refused for the first thing that is wrong with
them.  Valid settings are read back from the variables that they are written as. -/
theorem accepted_iff_positive (lookup : String → Option String) :
    ((∃ settings, ofEnvironment lookup = .ok settings) ↔
      IsPositive (lookup "PROCMON_CAPACITY") ∧ IsPositive (lookup "PROCMON_LIST_LIMIT")) ∧
      (∀ settings, ofEnvironment lookup = .ok settings ↔ Chosen lookup settings) ∧
      (∀ settings, ofEnvironment lookup = .ok settings →
        settings.validate = .ok () ∧ ∀ now,
          (Session.create settings now).store.capacity = settings.capacity ∧
            (Session.create settings now).console.listLimit = settings.listLimit) ∧
      (∀ error, (ofEnvironment lookup).mapError Fault.error = .error error ↔
        ∃ fault, Refused lookup fault ∧ error = .invalidSettings fault.reason) ∧
      ∀ settings : Settings, settings.Fits → settings.validate = .ok () →
        ofEnvironment settings.environment = .ok settings := by
  refine ⟨?_, fun settings => ofEnvironment_eq_ok_iff, ?_, ?_, ?_⟩
  · have capacity : IsPositive (lookup "PROCMON_CAPACITY") ↔ _ :=
      isPositive_iff (show 0 < Store.defaultCapacity by decide)
    have listLimit : IsPositive (lookup "PROCMON_LIST_LIMIT") ↔ _ :=
      isPositive_iff (show 0 < Listing.defaultLimit by decide)
    rw [capacity, listLimit]
    constructor
    · rintro ⟨settings, read⟩
      have chosen := ofEnvironment_eq_ok_iff.mp read
      exact ⟨⟨_, chosen.capacity, chosen.capacity_pos⟩, ⟨_, chosen.listLimit, chosen.listLimit_pos⟩⟩
    · rintro ⟨⟨capacity, first, capacity_pos⟩, ⟨listLimit, second, listLimit_pos⟩⟩
      exact ⟨⟨capacity, listLimit, _⟩, ofEnvironment_eq_ok_iff.mpr
        ⟨first, second, traceJson_iff lookup, capacity_pos, listLimit_pos⟩⟩
  · intro settings read
    have chosen := ofEnvironment_eq_ok_iff.mp read
    refine ⟨validate_eq_ok_iff.mpr ⟨chosen.capacity_pos, chosen.listLimit_pos⟩, fun now => ?_⟩
    exact ⟨Nat.max_eq_left chosen.capacity_pos, Nat.max_eq_left chosen.listLimit_pos⟩
  · intro error
    constructor
    · intro failed
      cases read : ofEnvironment lookup with
      | ok settings =>
          rw [read] at failed
          cases failed
      | error fault =>
          rw [read] at failed
          obtain rfl := Except.error.inj failed
          exact ⟨fault, ofEnvironment_eq_error_iff.mp read, rfl⟩
    · rintro ⟨fault, refused, rfl⟩
      rw [ofEnvironment_eq_error_iff.mpr refused]
      rfl
  · exact fun settings fits valid => ofEnvironment_eq_ok_iff.mpr (chosen_environment fits valid)

/-- A plus, blanks and capitals do not matter; a text that is no number is refused before a zero that
stands in front of it; and the greatest number that fits is written and read back. -/
theorem accepted_iff_positive_of_plus :
    let lookup : String → Option String := fun name =>
      [("PROCMON_CAPACITY", " +07\n"), ("PROCMON_TRACE_JSON", "\ttRuE")].lookup name
    let broken : String → Option String := fun name =>
      [("PROCMON_CAPACITY", "0"), ("PROCMON_LIST_LIMIT", "5 0")].lookup name
    let greatest : Settings := ⟨Word.top, 1, false⟩
    ofEnvironment lookup = .ok ⟨7, 50, true⟩ ∧
      Chosen lookup ⟨7, 50, true⟩ ∧
      (Session.create ⟨7, 50, true⟩ 3).store.capacity = 7 ∧
      Refused broken (.notNumber .listLimit "5 0") ∧
      greatest.Fits ∧ greatest.validate = .ok () ∧
      ofEnvironment greatest.environment = .ok greatest := by
  intro lookup broken greatest
  have read : ofEnvironment lookup = .ok ⟨7, 50, true⟩ := rfl
  have fits : greatest.Fits := ⟨by decide, by decide⟩
  obtain ⟨-, chosen, used, -, back⟩ := accepted_iff_positive lookup
  refine ⟨read, (chosen _).mp read, ((used _ read).2 3).1, ?_, fits, rfl, back greatest fits rfl⟩
  exact ofEnvironment_eq_error_iff.mp rfl

end Settings

end ProcessWatch
