/-
Module: ProcessWatch.CommandName
Purpose: Command names as the kernel keeps them: at most fifteen bytes, cut between characters.
Trusted boundary: none
Main exports: CommandName, CommandName.capacity, CommandName.ofString
-/
import ProcessWatch.Text.Bytes

namespace ProcessWatch

/-- The size of the kernel's buffer for a command name, terminator included. -/
def CommandName.bufferSize : Nat := 16

/-- The greatest number of bytes in a command name. -/
def CommandName.capacity : Nat := CommandName.bufferSize - 1

/-- The name of a process's command. -/
structure CommandName where
  text : String
  fits : text.utf8ByteSize ≤ CommandName.capacity
deriving DecidableEq

namespace CommandName

/-- The name that a text gives: as many of its characters as fit. -/
def ofString (text : String) : CommandName where
  text := String.ofList (Text.takeBytes capacity text.toList)
  fits := by rw [Text.utf8ByteSize_ofList]; exact Text.byteCount_takeBytes_le _ _

/-- The name without characters. -/
def empty : CommandName := ⟨"", Nat.zero_le _⟩

instance : Inhabited CommandName := ⟨empty⟩

instance : Repr CommandName := ⟨fun name precedence => reprPrec name.text precedence⟩

@[ext] theorem ext {first second : CommandName} (same : first.text = second.text) :
    first = second := by
  cases first
  cases second
  cases same
  rfl

/-- A text of at most fifteen bytes is a name as it stands. -/
theorem text_ofString_of_fits {text : String} (fits : text.utf8ByteSize ≤ capacity) :
    (ofString text).text = text := by
  rw [Text.utf8ByteSize_eq_byteCount] at fits
  change String.ofList (Text.takeBytes capacity text.toList) = text
  rw [Text.takeBytes_of_byteCount_le fits, String.ofList_toList]

/-- Giving a process its own name again changes nothing. -/
@[simp] theorem ofString_text (name : CommandName) : ofString name.text = name :=
  CommandName.ext (text_ofString_of_fits name.fits)

end CommandName

end ProcessWatch
