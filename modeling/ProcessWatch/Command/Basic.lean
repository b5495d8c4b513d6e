/-
Module: ProcessWatch.Command.Basic
Purpose: The commands of the console and the lines that give them.
Trusted boundary: none
Main exports: Command, Command.keyword, Command.ofWords, Command.parse

A line is a list of words.  Its first word chooses the kind of command, the arguments are read from
left to right, and the first thing that is wrong is what the line is refused for.
-/
import ProcessWatch.Command.Error

namespace ProcessWatch

/-- A command of the console. -/
inductive Command where
  | control (order : Control)
  | enableFilter
  | disableFilter
  | resetFilter
  | setFilter (field : Filter.Field) (value : String)
  | showStats
  /-- List records, up to the console's own limit if none is given. -/
  | listProcesses (limit : Option Nat)
  | listRecent (count : Nat)
  | showFilter
  | showControl
  /-- Give records as data, up to the console's own limit if none is given. -/
  | exportJson (limit : Option Nat)
  | fork (pid parent : Pid) (name : String)
  | exit (pid : Pid) (exitCode : ExitCode)
  | help
  | quit
deriving DecidableEq, Repr, Inhabited

namespace Command

/-- The kind of a command. -/
def keyword : Command → Keyword
  | .control order => .control order
  | .enableFilter => .enable
  | .disableFilter => .disable
  | .resetFilter => .reset
  | .setFilter field _ => .field field
  | .showStats => .stats
  | .listProcesses _ => .processes
  | .listRecent _ => .recent
  | .showFilter => .filter
  | .showControl => .controlState
  | .exportJson _ => .json
  | .fork _ _ _ => .fork
  | .exit _ _ => .exit
  | .help => .help
  | .quit => .quit

/-! ## Arguments -/

/-- Take the next word. -/
def nextWord (command : Keyword) : List String → Except CommandError (String × List String)
  | [] => .error (.missingArgument command)
  | word :: rest => .ok (word, rest)

/-- Take the next word and read it by `read`. -/
def nextValue {α : Type} (read : String → Option α) (command : Keyword) (words : List String) :
    Except CommandError (α × List String) := do
  let (word, rest) ← nextWord command words
  match read word with
  | some value => .ok (value, rest)
  | none => .error (.invalidArgument command word)

/-- Read a number of records, at least one. -/
def readCount? (word : String) : Option Nat := do
  let count ← Text.readNatural? Word.size word
  if count = 0 then none else some count

/-- Take the next word, if there is one, as a number of records. -/
def optionalCount (command : Keyword) :
    List String → Except CommandError (Option Nat × List String)
  | [] => .ok (none, [])
  | words => do
      let (count, rest) ← nextValue readCount? command words
      return (some count, rest)

/-- The command, if the line ends after its last argument. -/
def finish (command : Command) : List String → Except CommandError Command
  | [] => .ok command
  | word :: _ => .error (.unexpectedArgument command.keyword word)

/-! ## Lines -/

/-- Read the arguments of a command of the given kind. -/
def ofArguments (keyword : Keyword) (words : List String) : Except CommandError Command :=
  match keyword with
  | .control order => finish (.control order) words
  | .enable => finish .enableFilter words
  | .disable => finish .disableFilter words
  | .reset => finish .resetFilter words
  | .field field => do
      let (value, rest) ← nextWord keyword words
      finish (.setFilter field value) rest
  | .stats => finish .showStats words
  | .processes => do
      let (limit, rest) ← optionalCount keyword words
      finish (.listProcesses limit) rest
  | .recent => do
      let (count, rest) ← nextValue readCount? keyword words
      finish (.listRecent count) rest
  | .filter => finish .showFilter words
  | .controlState => finish .showControl words
  | .json => do
      let (limit, rest) ← optionalCount keyword words
      finish (.exportJson limit) rest
  | .fork => do
      let (pid, rest) ← nextValue Text.readUInt32? keyword words
      let (parent, rest) ← nextValue Text.readUInt32? keyword rest
      let (name, rest) ← nextWord keyword rest
      finish (.fork pid parent name) rest
  | .exit => do
      let (pid, rest) ← nextValue Text.readUInt32? keyword words
      let (exitCode, rest) ← nextValue Text.readInt32? keyword rest
      finish (.exit pid exitCode) rest
  | .help => finish .help words
  | .quit => finish .quit words

/-- The command that some words give. -/
def ofWords : List String → Except CommandError Command
  | [] => .error (.unknown "")
  | word :: rest =>
      match Keyword.ofWord? word with
      | some keyword => ofArguments keyword rest
      | none => .error (.unknown word)

/-- The command that a line gives. -/
def parse (line : String) : Except CommandError Command :=
  ofWords (Text.words line)

end Command

end ProcessWatch
