/-
Module: ProcessWatch.Encoding.Basic
Purpose: Names, numbers of processes, exit codes and words as JSON.
Trusted boundary: none
Main exports: CommandName.encode, CommandName.decode?, Pid.encode, ExitCode.encode, Word.decode?
-/
import ProcessWatch.Json.Structure
import ProcessWatch.Record

namespace ProcessWatch

/-- A name as a string. -/
def CommandName.encode (name : CommandName) : Json := .string name.text

/-- A string is read as the name that it gives. -/
def CommandName.decode? (json : Json) : Option CommandName :=
  json.text?.map CommandName.ofString

/-- The number of a process as an integer. -/
def Pid.encode (pid : Pid) : Json := .ofNat pid.toNat

/-- An exit code as an integer. -/
def ExitCode.encode (exitCode : ExitCode) : Json := .integer exitCode.toInt

/-- The value of an integer that fits a word. -/
def Word.decode? (json : Json) : Option Nat := json.natural? Word.size

@[simp] theorem CommandName.decode?_encode (name : CommandName) :
    CommandName.decode? name.encode = some name := by
  simp [CommandName.decode?, CommandName.encode, Json.text?]

@[simp] theorem Word.decode?_ofNat {value : Nat} (small : value < Word.size) :
    Word.decode? (.ofNat value) = some value :=
  Json.natural?_ofNat small

end ProcessWatch
