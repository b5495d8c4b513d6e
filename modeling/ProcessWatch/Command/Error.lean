/-
Module: ProcessWatch.Command.Error
Purpose: Why a command line is refused.
Trusted boundary: none
Main exports: CommandError, CommandError.diagnostic
-/
import ProcessWatch.Command.Keyword

namespace ProcessWatch

/-- The reasons for refusing a command line. -/
inductive CommandError where
  /-- No command starts with this word. -/
  | unknown (word : String)
  /-- The line ends before the command has all its arguments. -/
  | missingArgument (command : Keyword)
  /-- The line goes on after the last argument of the command. -/
  | unexpectedArgument (command : Keyword) (argument : String)
  /-- A numeric argument is no number of its range. -/
  | invalidArgument (command : Keyword) (value : String)
  /-- The filter refuses the change. -/
  | filter (error : FilterError)
  /-- A report could not be written. -/
  | render (reason : String)
deriving DecidableEq, Repr, Inhabited

namespace CommandError

/-- The message of a refused line. -/
def message : CommandError → String
  | .unknown word => "Unknown command: " ++ word
  | .missingArgument command => "Command '" ++ command.spelling ++ "' requires an argument"
  | .unexpectedArgument command argument =>
      "Command '" ++ command.spelling ++ "' got unexpected argument '" ++ argument ++ "'"
  | .invalidArgument command value =>
      "Invalid argument '" ++ value ++ "' for '" ++ command.spelling ++ "'"
  | .filter error => "Filter error: " ++ error.message
  | .render reason => "Failed to render report: " ++ reason

/-- The shown form of a refused line.  A refusal by the filter keeps the filter's code and hint. -/
def diagnostic (error : CommandError) : Diagnostic :=
  match error with
  | .unknown _ =>
      ⟨error.message, some "command::unknown", some "Type 'help' for the command list."⟩
  | .missingArgument _ => ⟨error.message, some "command::missing_argument", none⟩
  | .unexpectedArgument _ _ => ⟨error.message, some "command::unexpected_argument", none⟩
  | .invalidArgument _ _ => ⟨error.message, some "command::invalid_argument", none⟩
  | .filter cause => ⟨error.message, some cause.code, some cause.help⟩
  | .render _ => ⟨error.message, some "command::render", none⟩

end CommandError

end ProcessWatch
