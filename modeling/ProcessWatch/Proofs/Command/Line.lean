/-
Module: ProcessWatch.Proofs.Command.Line
Purpose: How a command is written as a line, and which command a line is read as.
Trusted boundary: none
Main exports: Command.arguments, Command.line, Command.parse_line, Command.parse_iff_grammar
-/
import ProcessWatch.Proofs.Command.Grammar

namespace ProcessWatch.Command

/-- The arguments of a command, written out. -/
def arguments : Command → List String
  | .setFilter _ value => [value]
  | .listProcesses (some count) => [toString count]
  | .listRecent count => [toString count]
  | .exportJson (some count) => [toString count]
  | .fork pid parent name => [toString pid.toNat, toString parent.toNat, name]
  | .exit pid code => [toString pid.toNat, toString code.toInt]
  | _ => []

/-- A command with its arguments as a line, with one space between two words. -/
def line (command : Command) : String :=
  " ".intercalate (command.keyword.spelling :: command.arguments)

theorem isWord_spelling (keyword : Keyword) : Text.IsWord keyword.spelling.toList := by
  cases keyword with
  | control order => cases order <;> exact Text.isWord_of_all rfl rfl
  | field target => cases target <;> exact Text.isWord_of_all rfl rfl
  | _ => exact Text.isWord_of_all rfl rfl

theorem isWord_toString (value : Nat) : Text.IsWord (toString value).toList :=
  Text.isWord_of_unsigned (Text.unsigned_toString value)

theorem isCount_toString {word : String} {count : Nat} (isCount : IsCount word count) :
    IsCount (toString count) count :=
  ⟨Text.unsigned_toString count, isCount.positive, isCount.fits⟩

/-- The arguments of a command fit its kind however they were written at first. -/
theorem takes_arguments {keyword : Keyword} {words : List String} {command : Command}
    (takes : keyword.Takes words command) :
    command.keyword = keyword ∧ keyword.Takes command.arguments command := by
  cases takes with
  | processesUpTo limit => exact ⟨rfl, .processesUpTo (isCount_toString limit)⟩
  | recent limit => exact ⟨rfl, .recent (isCount_toString limit)⟩
  | jsonUpTo limit => exact ⟨rfl, .jsonUpTo (isCount_toString limit)⟩
  | fork => exact ⟨rfl, .fork (Text.unsigned_toString _) (Text.unsigned_toString _)⟩
  | exit => exact ⟨rfl, .exit (Text.unsigned_toString _) (Text.signed_toString _)⟩
  | _ =>
      refine ⟨rfl, ?_⟩
      constructor

/-- The arguments of a command are words if those it was read from are. -/
theorem isWord_arguments {keyword : Keyword} {words : List String} {command : Command}
    (takes : keyword.Takes words command) (isWord : ∀ word ∈ words, Text.IsWord word.toList) :
    ∀ word ∈ command.arguments, Text.IsWord word.toList := by
  cases takes with
  | field => exact isWord
  | processesUpTo => exact List.forall_mem_singleton.mpr (isWord_toString _)
  | recent => exact List.forall_mem_singleton.mpr (isWord_toString _)
  | jsonUpTo => exact List.forall_mem_singleton.mpr (isWord_toString _)
  | @fork first second name =>
      have named : Text.IsWord name.toList := isWord name (by simp)
      exact List.forall_mem_cons.mpr ⟨isWord_toString _,
        List.forall_mem_cons.mpr ⟨isWord_toString _, List.forall_mem_singleton.mpr named⟩⟩
  | @exit _ _ pid code =>
      have ofCode := Text.isWord_of_signed (Text.signed_toString code.toInt)
      exact List.forall_mem_cons.mpr ⟨isWord_toString _, List.forall_mem_singleton.mpr ofCode⟩
  | _ =>
      intro word member
      cases member

/-- A command is given by its own line if its arguments are words that fit its kind. -/
theorem parse_line_of_takes {command : Command}
    (takes : command.keyword.Takes command.arguments command)
    (isWord : ∀ word ∈ command.arguments, Text.IsWord word.toList) :
    parse command.line = .ok command := by
  have words : Text.words command.line = command.keyword.spelling :: command.arguments :=
    Text.words_intercalate (List.forall_mem_cons.mpr ⟨isWord_spelling _, isWord⟩)
  rw [parse, words, ofWords_eq_ok_iff]
  exact .line (.name _) takes

/-- A command that some line gives is given by its own line, too. -/
theorem parse_line {text : String} {command : Command} (given : parse text = .ok command) :
    parse command.line = .ok command := by
  obtain ⟨keyword, words, takes, separated⟩ := takes_of_parse given
  obtain ⟨rfl, written⟩ := takes_arguments takes
  exact parse_line_of_takes written (isWord_arguments takes separated)

theorem parse_setFilter {value : String} (field : Filter.Field) (isWord : Text.IsWord value.toList) :
    parse (setFilter field value).line = .ok (.setFilter field value) :=
  parse_line_of_takes (.field field value) (List.forall_mem_singleton.mpr isWord)

/-- A line is read by splitting it at its blanks; its words are a command as the grammar says, or are
refused for the leftmost thing that is wrong with them; and what a line gives is given by the line
that is written for it. -/
theorem parse_iff_grammar (text : String) :
    (∀ words, Text.words text = words ↔
      Text.Separates (words.map String.toList) text.toList) ∧
      (∀ command, parse text = .ok command ↔ Grammar (Text.words text) command) ∧
      (∀ error, parse text = .error error ↔ Flaw (Text.words text) error) ∧
      ∀ command, parse text = .ok command → parse command.line = .ok command :=
  ⟨fun _ => Text.words_eq_iff, fun _ => ofWords_eq_ok_iff, fun _ => ofWords_eq_error_iff,
    fun _ => parse_line⟩

/-- A sign and a blank more do not matter, and they are gone from the line that is written; of two
faults the first one counts. -/
theorem parse_iff_grammar_of_sign :
    parse " exit 7  +3" = .ok (.exit 7 3) ∧ (Command.exit 7 3).line = "exit 7 3" ∧
      parse (Command.exit 7 3).line = .ok (.exit 7 3) ∧
      Flaw (Text.words "fork ten") (.invalidArgument .fork "ten") :=
  ⟨rfl, rfl, (parse_iff_grammar " exit 7  +3").2.2.2 _ rfl,
    ((parse_iff_grammar "fork ten").2.2.1 _).mp rfl⟩

end ProcessWatch.Command
