/-
Module: ProcessWatch.Command.Keyword
Purpose: The words that commands start with.
Trusted boundary: none
Main exports: Keyword, Keyword.spelling, Keyword.ofWord?
-/
import ProcessWatch.Control
import ProcessWatch.Filter.Field

namespace ProcessWatch

/-- The kinds of command line. -/
inductive Keyword where
  | control (order : Control)
  | enable
  | disable
  | reset
  | field (target : Filter.Field)
  | stats
  | processes
  | recent
  | filter
  | controlState
  | json
  | fork
  | exit
  | help
  | quit
deriving DecidableEq, Repr, Inhabited

namespace Keyword

/-- The word that names a kind of command, also in messages. -/
def spelling : Keyword → String
  | .control order => order.keyword
  | .enable => "enable"
  | .disable => "disable"
  | .reset => "reset"
  | .field target => target.keyword
  | .stats => "stats"
  | .processes => "processes"
  | .recent => "recent"
  | .filter => "filter"
  | .controlState => "control"
  | .json => "json"
  | .fork => "fork"
  | .exit => "exit"
  | .help => "help"
  | .quit => "quit"

/-- The kind of command that a word starts.  Two of them have a short form besides their name. -/
def ofWord? : String → Option Keyword
  | "start" => some (.control .start)
  | "stop" => some (.control .stop)
  | "clear" => some (.control .clear)
  | "reset_stats" => some (.control .resetStatistics)
  | "enable" => some .enable
  | "disable" => some .disable
  | "reset" => some .reset
  | "pid" => some (.field .pid)
  | "ppid" => some (.field .parent)
  | "comm" => some (.field .command)
  | "minlife" => some (.field .minLifetime)
  | "maxlife" => some (.field .maxLifetime)
  | "stats" => some .stats
  | "processes" => some .processes
  | "recent" => some .recent
  | "filter" => some .filter
  | "control" => some .controlState
  | "json" => some .json
  | "fork" => some .fork
  | "exit" => some .exit
  | "help" => some .help
  | "?" => some .help
  | "quit" => some .quit
  | "q" => some .quit
  | _ => none

@[simp] theorem ofWord?_spelling (keyword : Keyword) : ofWord? keyword.spelling = some keyword := by
  cases keyword with
  | control order => cases order <;> rfl
  | field target => cases target <;> rfl
  | _ => rfl

end Keyword

end ProcessWatch
