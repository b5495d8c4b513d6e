/-
Module: ProcessWatch.Proofs.Command.Grammar
Purpose: The words that are a command, and what is wrong with all others.
Trusted boundary: none
Main exports: Keyword.Begins, Keyword.Takes, Keyword.Misfit, Command.Grammar, Command.Flaw,
  Command.ofWords_eq_ok_iff, Command.ofWords_eq_error_iff, Command.takes_of_parse

The grammar says which command some words are, and the flaws say what is wrong with words that are
none.  Neither mentions how a line is read.
-/
import ProcessWatch.Command.Basic
import ProcessWatch.Proofs.Text.Numeral

namespace ProcessWatch

/-! ## The grammar -/

/-- The word is a numeral of a number of records, which is at least one. -/
structure IsCount (word : String) (count : Nat) : Prop where
  numeral : Text.Unsigned word.toList count
  positive : 0 < count
  fits : count < Word.size

namespace Keyword

/-- The word starts a command of the kind: it is the name of the kind, or short for it. -/
inductive Begins : Keyword → String → Prop where
  | name (keyword : Keyword) : Begins keyword keyword.spelling
  | questionMark : Begins .help "?"
  | firstLetter : Begins .quit "q"

/-- The words are the arguments of a command of the kind, and this is the command. -/
inductive Takes : Keyword → List String → Command → Prop where
  | control (order : Control) : Takes (.control order) [] (.control order)
  | enable : Takes .enable [] .enableFilter
  | disable : Takes .disable [] .disableFilter
  | reset : Takes .reset [] .resetFilter
  | field (target : Filter.Field) (value : String) :
      Takes (.field target) [value] (.setFilter target value)
  | stats : Takes .stats [] .showStats
  | processes : Takes .processes [] (.listProcesses none)
  | processesUpTo {word : String} {count : Nat} (limit : IsCount word count) :
      Takes .processes [word] (.listProcesses (some count))
  | recent {word : String} {count : Nat} (limit : IsCount word count) :
      Takes .recent [word] (.listRecent count)
  | filter : Takes .filter [] .showFilter
  | controlState : Takes .controlState [] .showControl
  | json : Takes .json [] (.exportJson none)
  | jsonUpTo {word : String} {count : Nat} (limit : IsCount word count) :
      Takes .json [word] (.exportJson (some count))
  | fork {first second name : String} {pid parent : Pid}
      (ofPid : Text.Unsigned first.toList pid.toNat)
      (ofParent : Text.Unsigned second.toList parent.toNat) :
      Takes .fork [first, second, name] (.fork pid parent name)
  | exit {first second : String} {pid : Pid} {code : ExitCode}
      (ofPid : Text.Unsigned first.toList pid.toNat)
      (ofCode : Text.Signed second.toList code.toInt) :
      Takes .exit [first, second] (.exit pid code)
  | help : Takes .help [] .help
  | quit : Takes .quit [] .quit

/-- A place for an argument. -/
inductive Place where
  | text
  | pid
  | exitCode
  | count
deriving DecidableEq, Repr

/-- The word may stand in the place. -/
def Place.Admits : Place → String → Prop
  | .text, _ => True
  | .pid, word => ∃ pid : Pid, Text.Unsigned word.toList pid.toNat
  | .exitCode, word => ∃ code : ExitCode, Text.Signed word.toList code.toInt
  | .count, word => ∃ count, IsCount word count

/-- The places for the arguments of a command of the kind, from left to right. -/
def places : Keyword → List Place
  | .field _ => [.text]
  | .processes | .recent | .json => [.count]
  | .fork => [.pid, .pid, .text]
  | .exit => [.pid, .exitCode]
  | _ => []

/-- A command of the kind may do without its arguments. -/
def isOptional : Keyword → Bool
  | .processes | .json => true
  | _ => false

/-- The leftmost thing that is wrong with some words as the arguments for the given places. -/
inductive Misfit (keyword : Keyword) : List Place → List String → CommandError → Prop where
  | missing {place : Place} {places : List Place} (needed : keyword.isOptional = false) :
      Misfit keyword (place :: places) [] (.missingArgument keyword)
  | invalid {place : Place} {places : List Place} {word : String} {words : List String}
      (unfit : ¬ place.Admits word) :
      Misfit keyword (place :: places) (word :: words) (.invalidArgument keyword word)
  | later {place : Place} {places : List Place} {word : String} {words : List String}
      {error : CommandError} (fit : place.Admits word) (tail : Misfit keyword places words error) :
      Misfit keyword (place :: places) (word :: words) error
  | surplus {word : String} {words : List String} :
      Misfit keyword [] (word :: words) (.unexpectedArgument keyword word)

end Keyword

namespace Command

/-- The words are the command. -/
inductive Grammar : List String → Command → Prop where
  | line {keyword : Keyword} {word : String} {words : List String} {command : Command}
      (begins : keyword.Begins word) (takes : keyword.Takes words command) :
      Grammar (word :: words) command

/-- What is wrong with some words: they start no command, or what follows does not fit the command
that they start. -/
inductive Flaw : List String → CommandError → Prop where
  | blank : Flaw [] (.unknown "")
  | unknown {word : String} {words : List String} (noKeyword : ∀ keyword, ¬ Keyword.Begins keyword word) :
      Flaw (word :: words) (.unknown word)
  | arguments {keyword : Keyword} {word : String} {words : List String} {error : CommandError}
      (begins : keyword.Begins word) (misfit : keyword.Misfit keyword.places words error) :
      Flaw (word :: words) error

end Command

/-! ## First words -/

/-- A word is known as the start of a command exactly if the grammar has it as one. -/
theorem Keyword.ofWord?_eq_some_iff {word : String} {keyword : Keyword} :
    Keyword.ofWord? word = some keyword ↔ keyword.Begins word := by
  constructor
  · intro found
    unfold Keyword.ofWord? at found
    split at found <;> cases found
    case h_22 => exact .questionMark
    case h_24 => exact .firstLetter
    all_goals exact .name _
  · intro begins
    cases begins with
    | name => exact Keyword.ofWord?_spelling keyword
    | questionMark => rfl
    | firstLetter => rfl

/-- A word that is not known starts no command of any kind. -/
theorem Keyword.ofWord?_eq_none_iff {word : String} :
    Keyword.ofWord? word = none ↔ ∀ keyword : Keyword, ¬ keyword.Begins word := by
  simp only [Option.eq_none_iff_forall_ne_some, ne_eq, Keyword.ofWord?_eq_some_iff]

namespace Command

/-! ## Arguments -/

/-- Only a numeral of at least one is read as a number of records. -/
theorem readCount?_eq_some_iff {word : String} {count : Nat} :
    readCount? word = some count ↔ IsCount word count := by
  rw [readCount?]
  constructor
  · intro read
    obtain ⟨value, found, positive⟩ := Option.bind_eq_some_iff.mp read
    obtain ⟨numeral, fits⟩ := Text.readNatural?_eq_some_iff.mp found
    split at positive
    case isTrue => cases positive
    case isFalse nonzero =>
      obtain rfl := Option.some.inj positive
      exact ⟨numeral, Nat.pos_of_ne_zero nonzero, fits⟩
  · intro isCount
    apply Option.bind_eq_some_iff.mpr
    exact ⟨count, Text.readNatural?_eq_some_iff.mpr ⟨isCount.numeral, isCount.fits⟩,
      if_neg (Nat.ne_of_gt isCount.positive)⟩

/-- The values that a reader finds are for exactly the words that the place admits. -/
def Reads {α : Type} (read : String → Option α) (place : Keyword.Place) : Prop :=
  ∀ word, place.Admits word ↔ ∃ value, read word = some value

theorem reads_text : Reads some .text :=
  fun word => ⟨fun _ => ⟨word, rfl⟩, fun _ => trivial⟩

theorem reads_pid : Reads Text.readUInt32? .pid :=
  fun _ => exists_congr fun _ => Text.readUInt32?_eq_some_iff.symm

theorem reads_exitCode : Reads Text.readInt32? .exitCode :=
  fun _ => exists_congr fun _ => Text.readInt32?_eq_some_iff.symm

theorem reads_count : Reads readCount? .count :=
  fun _ => exists_congr fun _ => readCount?_eq_some_iff.symm

section Steps

variable {α : Type} {read : String → Option α} {keyword : Keyword} {words : List String}
  {command : Command} {error : CommandError}

/-- A command is done when there are no words left. -/
theorem finish_eq_ok_iff {written : Command} :
    finish written words = .ok command ↔ words = [] ∧ written = command := by
  cases words <;> simp [finish]

/-- Words that are left are surplus. -/
theorem finish_eq_error_iff (kind : command.keyword = keyword) :
    finish command words = .error error ↔ keyword.Misfit [] words error := by
  subst kind
  cases words with
  | nil =>
      constructor
      · intro refused
        cases refused
      · intro misfit
        cases misfit
  | cons word words =>
      constructor
      · intro refused
        cases refused
        exact .surplus
      · intro misfit
        cases misfit
        rfl

variable {next : α × List String → Except CommandError Command}

theorem nextValue_bind_of_some {word : String} {value : α} (found : read word = some value) :
    (nextValue read keyword (word :: words) >>= next) = next (value, words) := by
  simp [nextValue, nextWord, bind, Except.bind, found]

theorem nextValue_bind_of_none {word : String} (unread : read word = none) :
    (nextValue read keyword (word :: words) >>= next) =
      .error (.invalidArgument keyword word) := by
  simp [nextValue, nextWord, bind, Except.bind, unread]

/-- An argument is taken if there is a word that can be read. -/
theorem nextValue_bind_eq_ok_iff :
    (nextValue read keyword words >>= next) = .ok command ↔
      ∃ word rest value, words = word :: rest ∧ read word = some value ∧
        next (value, rest) = .ok command := by
  constructor
  · intro taken
    cases words with
    | nil => cases taken
    | cons word rest =>
        cases found : read word with
        | none =>
            rw [nextValue_bind_of_none found] at taken
            cases taken
        | some value =>
            rw [nextValue_bind_of_some found] at taken
            exact ⟨word, rest, value, rfl, found, taken⟩
  · rintro ⟨word, rest, value, rfl, found, taken⟩
    rw [nextValue_bind_of_some found]
    exact taken

/-- A word goes wrong in its own place or leaves the fault to those after it. -/
theorem nextValue_bind_cons_eq_error_iff {place : Keyword.Place} {places : List Keyword.Place}
    {word : String} (reads : Reads read place)
    (tail : ∀ value rest, next (value, rest) = .error error ↔ keyword.Misfit places rest error) :
    (nextValue read keyword (word :: words) >>= next) = .error error ↔
      keyword.Misfit (place :: places) (word :: words) error := by
  cases found : read word with
  | none =>
      have unfit : ¬ place.Admits word := by
        rw [reads word, found]
        simp
      rw [nextValue_bind_of_none found]
      constructor
      · rintro ⟨⟩
        exact .invalid unfit
      · intro misfit
        cases misfit with
        | invalid => rfl
        | later fit => exact absurd fit unfit
  | some value =>
      have fit : place.Admits word := (reads word).mpr ⟨value, found⟩
      rw [nextValue_bind_of_some found, tail]
      constructor
      · exact .later fit
      · intro misfit
        cases misfit with
        | invalid unfit => exact absurd fit unfit
        | later _ tail => exact tail

/-- An argument that is needed may also be missing. -/
theorem nextValue_bind_eq_error_iff {place : Keyword.Place} {places : List Keyword.Place}
    (needed : keyword.isOptional = false) (reads : Reads read place)
    (tail : ∀ value rest, next (value, rest) = .error error ↔ keyword.Misfit places rest error) :
    (nextValue read keyword words >>= next) = .error error ↔
      keyword.Misfit (place :: places) words error := by
  cases words with
  | cons word words => exact nextValue_bind_cons_eq_error_iff reads tail
  | nil =>
      constructor
      · intro refused
        cases refused
        exact .missing needed
      · intro misfit
        cases misfit
        rfl

/-- Any word is its own value. -/
theorem nextWord_eq (keyword : Keyword) (words : List String) :
    nextWord keyword words = nextValue some keyword words := by
  cases words <;> rfl

/-- A text argument is any word that there is. -/
theorem nextWord_bind_eq_ok_iff {next : String × List String → Except CommandError Command} :
    (nextWord keyword words >>= next) = .ok command ↔
      ∃ word rest, words = word :: rest ∧ next (word, rest) = .ok command := by
  rw [nextWord_eq, nextValue_bind_eq_ok_iff]
  simp

/-- A text argument cannot be wrong but only missing; all else is wrong with the later words. -/
theorem nextWord_bind_eq_error_iff {next : String × List String → Except CommandError Command}
    {places : List Keyword.Place} (needed : keyword.isOptional = false)
    (tail : ∀ word rest, next (word, rest) = .error error ↔ keyword.Misfit places rest error) :
    (nextWord keyword words >>= next) = .error error ↔
      keyword.Misfit (.text :: places) words error := by
  rw [nextWord_eq]
  exact nextValue_bind_eq_error_iff needed reads_text tail

section Optional

variable {next : Option Nat × List String → Except CommandError Command}

/-- An argument that is given is read whether it is needed or not. -/
theorem optionalCount_bind_cons (word : String) :
    (optionalCount keyword (word :: words) >>= next) =
      (nextValue readCount? keyword (word :: words) >>= fun taken =>
        next (some taken.1, taken.2)) := by
  cases found : readCount? word <;>
    simp [optionalCount, nextValue, nextWord, bind, Except.bind, pure, Except.pure, found]

/-- An optional number may be left out, or is read. -/
theorem optionalCount_bind_eq_ok_iff :
    (optionalCount keyword words >>= next) = .ok command ↔
      (words = [] ∧ next (none, []) = .ok command) ∨
        ∃ word rest count, words = word :: rest ∧ readCount? word = some count ∧
          next (some count, rest) = .ok command := by
  cases words with
  | nil => simp [optionalCount, bind, Except.bind]
  | cons word words =>
      rw [optionalCount_bind_cons, nextValue_bind_eq_ok_iff]
      simp

/-- Nothing is missing where an argument is optional, so that a fault lies in a word that is there. -/
theorem optionalCount_bind_eq_error_iff {places : List Keyword.Place}
    (unneeded : keyword.isOptional = true) (leftOut : next (none, []) ≠ .error error)
    (tail : ∀ count rest,
      next (some count, rest) = .error error ↔ keyword.Misfit places rest error) :
    (optionalCount keyword words >>= next) = .error error ↔
      keyword.Misfit (.count :: places) words error := by
  cases words with
  | cons word words =>
      rw [optionalCount_bind_cons]
      exact nextValue_bind_cons_eq_error_iff reads_count tail
  | nil =>
      constructor
      · intro refused
        exact absurd refused leftOut
      · intro misfit
        cases misfit with
        | missing needed => cases unneeded.symm.trans needed

end Optional

end Steps

/-! ## The arguments of each kind -/

/-- The arguments make a command of the kind exactly if the kind takes them so. -/
theorem ofArguments_eq_ok_iff {keyword : Keyword} {words : List String} {command : Command} :
    ofArguments keyword words = .ok command ↔ keyword.Takes words command := by
  constructor
  · intro taken
    cases keyword with
    | field target =>
        rw [ofArguments] at taken
        obtain ⟨value, rest, rfl, taken⟩ := nextWord_bind_eq_ok_iff.mp taken
        obtain ⟨rfl, rfl⟩ := finish_eq_ok_iff.mp taken
        exact .field target value
    | processes =>
        rw [ofArguments] at taken
        rcases optionalCount_bind_eq_ok_iff.mp taken with
          ⟨rfl, whole⟩ | ⟨word, rest, count, rfl, read, taken⟩
        · obtain ⟨-, rfl⟩ := finish_eq_ok_iff.mp whole
          exact .processes
        · obtain ⟨rfl, rfl⟩ := finish_eq_ok_iff.mp taken
          exact .processesUpTo (readCount?_eq_some_iff.mp read)
    | recent =>
        rw [ofArguments] at taken
        obtain ⟨word, rest, count, rfl, read, taken⟩ := nextValue_bind_eq_ok_iff.mp taken
        obtain ⟨rfl, rfl⟩ := finish_eq_ok_iff.mp taken
        exact .recent (readCount?_eq_some_iff.mp read)
    | json =>
        rw [ofArguments] at taken
        rcases optionalCount_bind_eq_ok_iff.mp taken with
          ⟨rfl, whole⟩ | ⟨word, rest, count, rfl, read, taken⟩
        · obtain ⟨-, rfl⟩ := finish_eq_ok_iff.mp whole
          exact .json
        · obtain ⟨rfl, rfl⟩ := finish_eq_ok_iff.mp taken
          exact .jsonUpTo (readCount?_eq_some_iff.mp read)
    | fork =>
        rw [ofArguments] at taken
        obtain ⟨first, rest, pid, rfl, readPid, taken⟩ := nextValue_bind_eq_ok_iff.mp taken
        obtain ⟨second, rest, parent, rfl, readParent, taken⟩ := nextValue_bind_eq_ok_iff.mp taken
        obtain ⟨name, rest, rfl, taken⟩ := nextWord_bind_eq_ok_iff.mp taken
        obtain ⟨rfl, rfl⟩ := finish_eq_ok_iff.mp taken
        exact .fork (Text.readUInt32?_eq_some_iff.mp readPid)
          (Text.readUInt32?_eq_some_iff.mp readParent)
    | exit =>
        rw [ofArguments] at taken
        obtain ⟨first, rest, pid, rfl, readPid, taken⟩ := nextValue_bind_eq_ok_iff.mp taken
        obtain ⟨second, rest, code, rfl, readCode, taken⟩ := nextValue_bind_eq_ok_iff.mp taken
        obtain ⟨rfl, rfl⟩ := finish_eq_ok_iff.mp taken
        exact .exit (Text.readUInt32?_eq_some_iff.mp readPid)
          (Text.readInt32?_eq_some_iff.mp readCode)
    | _ =>
        obtain ⟨rfl, rfl⟩ := finish_eq_ok_iff.mp taken
        constructor
  · intro takes
    cases takes with
    | field target value => rfl
    | processesUpTo limit =>
        exact optionalCount_bind_eq_ok_iff.mpr
          (.inr ⟨_, _, _, rfl, readCount?_eq_some_iff.mpr limit, rfl⟩)
    | recent limit =>
        exact nextValue_bind_eq_ok_iff.mpr ⟨_, _, _, rfl, readCount?_eq_some_iff.mpr limit, rfl⟩
    | jsonUpTo limit =>
        exact optionalCount_bind_eq_ok_iff.mpr
          (.inr ⟨_, _, _, rfl, readCount?_eq_some_iff.mpr limit, rfl⟩)
    | fork ofPid ofParent =>
        apply nextValue_bind_eq_ok_iff.mpr
        refine ⟨_, _, _, rfl, Text.readUInt32?_eq_some_iff.mpr ofPid, ?_⟩
        apply nextValue_bind_eq_ok_iff.mpr
        exact ⟨_, _, _, rfl, Text.readUInt32?_eq_some_iff.mpr ofParent, rfl⟩
    | exit ofPid ofCode =>
        apply nextValue_bind_eq_ok_iff.mpr
        refine ⟨_, _, _, rfl, Text.readUInt32?_eq_some_iff.mpr ofPid, ?_⟩
        apply nextValue_bind_eq_ok_iff.mpr
        exact ⟨_, _, _, rfl, Text.readInt32?_eq_some_iff.mpr ofCode, rfl⟩
    | _ => rfl

/-- Otherwise they are refused for the leftmost thing that is wrong with them. -/
theorem ofArguments_eq_error_iff {keyword : Keyword} {words : List String}
    {error : CommandError} :
    ofArguments keyword words = .error error ↔ keyword.Misfit keyword.places words error := by
  cases keyword with
  | field target =>
      apply nextWord_bind_eq_error_iff rfl
      intro value rest
      exact finish_eq_error_iff rfl
  | processes =>
      apply optionalCount_bind_eq_error_iff rfl (by rintro ⟨⟩)
      intro count rest
      exact finish_eq_error_iff rfl
  | recent =>
      apply nextValue_bind_eq_error_iff rfl reads_count
      intro count rest
      exact finish_eq_error_iff rfl
  | json =>
      apply optionalCount_bind_eq_error_iff rfl (by rintro ⟨⟩)
      intro count rest
      exact finish_eq_error_iff rfl
  | fork =>
      apply nextValue_bind_eq_error_iff rfl reads_pid
      intro pid rest
      apply nextValue_bind_eq_error_iff rfl reads_pid
      intro parent rest
      apply nextWord_bind_eq_error_iff rfl
      intro name rest
      exact finish_eq_error_iff rfl
  | exit =>
      apply nextValue_bind_eq_error_iff rfl reads_pid
      intro pid rest
      apply nextValue_bind_eq_error_iff rfl reads_exitCode
      intro code rest
      exact finish_eq_error_iff rfl
  | _ => exact finish_eq_error_iff rfl

/-! ## Whole lines -/

/-- The words are read as the command that the grammar has for them. -/
theorem ofWords_eq_ok_iff {words : List String} {command : Command} :
    ofWords words = .ok command ↔ Grammar words command := by
  constructor
  · intro taken
    cases words with
    | nil => cases taken
    | cons word words =>
        rw [ofWords] at taken
        split at taken
        case h_1 keyword found =>
          exact .line (Keyword.ofWord?_eq_some_iff.mp found) (ofArguments_eq_ok_iff.mp taken)
        case h_2 => cases taken
  · intro grammar
    cases grammar with
    | line begins takes =>
        rw [ofWords, Keyword.ofWord?_eq_some_iff.mpr begins]
        exact ofArguments_eq_ok_iff.mpr takes

/-- The words are refused for the flaw that they have. -/
theorem ofWords_eq_error_iff {words : List String} {error : CommandError} :
    ofWords words = .error error ↔ Flaw words error := by
  constructor
  · intro refused
    cases words with
    | nil =>
        cases refused
        exact .blank
    | cons word words =>
        rw [ofWords] at refused
        split at refused
        case h_1 keyword found =>
          exact .arguments (Keyword.ofWord?_eq_some_iff.mp found)
            (ofArguments_eq_error_iff.mp refused)
        case h_2 noKeyword =>
          cases refused
          exact .unknown (Keyword.ofWord?_eq_none_iff.mp noKeyword)
  · intro flaw
    cases flaw with
    | blank => rfl
    | unknown noKeyword => rw [ofWords, Keyword.ofWord?_eq_none_iff.mpr noKeyword]
    | arguments begins misfit =>
        rw [ofWords, Keyword.ofWord?_eq_some_iff.mpr begins]
        exact ofArguments_eq_error_iff.mpr misfit

/-- What is read from a line is read from words. -/
theorem takes_of_parse {line : String} {command : Command} (given : parse line = .ok command) :
    ∃ (keyword : Keyword) (words : List String), keyword.Takes words command ∧
      ∀ word ∈ words, Text.IsWord word.toList := by
  have separated : ∀ word ∈ Text.words line, Text.IsWord word.toList :=
    fun word => Text.isWord_of_mem_words
  generalize found : Text.words line = words at separated
  rw [parse, found] at given
  cases ofWords_eq_ok_iff.mp given with
  | line begins takes =>
      exact ⟨_, _, takes, fun word member => separated word (List.mem_cons_of_mem _ member)⟩

end Command

end ProcessWatch
