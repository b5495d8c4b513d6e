/-
Module: ProcessWatch.Filter.Field
Purpose: Changing one requirement of a filter, by a typed value or by a text.
Trusted boundary: none
Main exports: Filter.Field, Filter.Change, Filter.Field.read, Filter.set, Filter.setPid,
  Filter.setCommand
-/
import ProcessWatch.Filter.Basic
import ProcessWatch.Filter.Error
import ProcessWatch.Text.Blank
import ProcessWatch.Text.Numeral

namespace ProcessWatch.Filter

/-- The requirements that can be changed on their own. -/
inductive Field where
  | pid
  | parent
  | command
  | minLifetime
  | maxLifetime
deriving DecidableEq, Repr, Inhabited

namespace Field

/-- The word for a field on the command line. -/
def keyword : Field → String
  | .pid => "pid"
  | .parent => "ppid"
  | .command => "comm"
  | .minLifetime => "minlife"
  | .maxLifetime => "maxlife"

/-- The field that a word names. -/
def ofKeyword? : String → Option Field
  | "pid" => some .pid
  | "ppid" => some .parent
  | "comm" => some .command
  | "minlife" => some .minLifetime
  | "maxlife" => some .maxLifetime
  | _ => none

/-- The field that a word names, or the complaint that there is none. -/
def ofKeyword (word : String) : Except FilterError Field :=
  match ofKeyword? word with
  | some field => .ok field
  | none => .error (.unknownField word)

@[simp] theorem ofKeyword?_keyword (field : Field) : ofKeyword? field.keyword = some field := by
  cases field <;> rfl

end Field

/-- A new value for one requirement; no value takes it away. -/
inductive Change where
  | pid (pid : Option Pid)
  | parent (pid : Option Pid)
  | command (name : Option CommandName)
  | minLifetime (seconds : Option Nat)
  | maxLifetime (seconds : Option Nat)
deriving DecidableEq, Repr

/-- The filter after a change. -/
def apply (filter : Filter) : Change → Filter
  | .pid pid => { filter with pid := pid }
  | .parent pid => { filter with parent := pid }
  | .command name => { filter with command := name }
  | .minLifetime seconds => { filter with minLifetime := seconds }
  | .maxLifetime seconds => { filter with maxLifetime := seconds }

/-- Zero stands for no value. -/
def unlessZero {α : Type} [DecidableEq α] [OfNat α 0] (value : α) : Option α :=
  if value = 0 then none else some value

/-! ## Typed changes -/

/-- Require a process number; zero takes the requirement away. -/
def setPid (filter : Filter) (pid : Pid) : Filter :=
  filter.apply (.pid (unlessZero pid))

/-- Require a parent's number; zero takes the requirement away. -/
def setParent (filter : Filter) (pid : Pid) : Filter :=
  filter.apply (.parent (unlessZero pid))

/-- Require a command name; the empty text takes the requirement away. -/
def setCommand (filter : Filter) (text : String) : Filter :=
  filter.apply (.command (if text = "" then none else some (CommandName.ofString text)))

/-- Require a least lifetime in seconds; zero takes the requirement away. -/
def setMinLifetime (filter : Filter) (seconds : Nat) : Filter :=
  filter.apply (.minLifetime (unlessZero seconds))

/-- Require a greatest lifetime in seconds; zero takes the requirement away. -/
def setMaxLifetime (filter : Filter) (seconds : Nat) : Filter :=
  filter.apply (.maxLifetime (unlessZero seconds))

/-! ## Textual changes -/

/-- A number that was read, or the complaint that there was none. -/
def Field.number {α : Type} (field : Field) (value : String) : Option α → Except FilterError α
  | some number => .ok number
  | none => .error (.invalidNumber field.keyword value)

/-- The change that a text without outer blanks asks for. -/
def Field.readTrimmed (field : Field) (value : String) : Except FilterError Change :=
  match field with
  | .pid => (field.number value (Text.readUInt32? value)).map fun pid => .pid (unlessZero pid)
  | .parent => (field.number value (Text.readUInt32? value)).map fun pid => .parent (unlessZero pid)
  | .minLifetime =>
      (field.number value (Text.readNatural? Word.size value)).map fun seconds =>
        .minLifetime (unlessZero seconds)
  | .maxLifetime =>
      (field.number value (Text.readNatural? Word.size value)).map fun seconds =>
        .maxLifetime (unlessZero seconds)
  | .command =>
      if value = "" then
        .error .emptyCommand
      else
        .ok (.command (some (CommandName.ofString value)))

/-- The change of a field that a text asks for.  Blanks around the text do not matter. -/
def Field.read (field : Field) (text : String) : Except FilterError Change :=
  field.readTrimmed (Text.trim text)

/-- The filter after the change that a text asks for. -/
def set (filter : Filter) (field : Field) (text : String) : Except FilterError Filter :=
  (field.read text).map filter.apply

end ProcessWatch.Filter
