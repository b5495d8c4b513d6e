/-
Module: ProcessWatch.Text.Bytes
Purpose: The length of a text in UTF-8, and the longest beginning of a text that fits a number of
  bytes without cutting a character.
Trusted boundary: none
Main exports: byteCount, takeBytes, utf8ByteSize_ofList, byteCount_takeBytes_le
-/

namespace ProcessWatch.Text

/-- The number of bytes that some characters take. -/
def byteCount : List Char → Nat
  | [] => 0
  | c :: rest => c.utf8Size + byteCount rest

/-- The characters from the front that fit into `room` bytes, up to the first one that does not. -/
def takeBytes : Nat → List Char → List Char
  | _, [] => []
  | room, c :: rest => if c.utf8Size ≤ room then c :: takeBytes (room - c.utf8Size) rest else []

@[simp] theorem byteCount_nil : byteCount [] = 0 := rfl

@[simp] theorem byteCount_cons (c : Char) (rest : List Char) :
    byteCount (c :: rest) = c.utf8Size + byteCount rest := rfl

theorem utf8ByteSize_ofList (chars : List Char) :
    (String.ofList chars).utf8ByteSize = byteCount chars := by
  rw [← String.size_toByteArray, String.toByteArray_ofList]
  induction chars with
  | nil => rfl
  | cons c rest ih =>
      have front : [c].utf8Encode.size = c.utf8Size := by
        rw [← String.toByteArray_singleton, String.size_toByteArray, String.utf8ByteSize_singleton]
      rw [List.utf8Encode_cons, ByteArray.size_append, ih, front, byteCount_cons]

theorem utf8ByteSize_eq_byteCount (text : String) :
    text.utf8ByteSize = byteCount text.toList := by
  rw [← utf8ByteSize_ofList, String.ofList_toList]

theorem byteCount_takeBytes_le (room : Nat) (chars : List Char) :
    byteCount (takeBytes room chars) ≤ room := by
  induction chars generalizing room with
  | nil => exact Nat.zero_le room
  | cons c rest ih =>
      rw [takeBytes]
      split
      · rename_i fits
        rw [byteCount_cons]
        have tail := ih (room - c.utf8Size)
        omega
      · exact Nat.zero_le room

theorem takeBytes_isPrefix (room : Nat) (chars : List Char) :
    takeBytes room chars <+: chars := by
  induction chars generalizing room with
  | nil => exact List.nil_prefix
  | cons c rest ih =>
      rw [takeBytes]
      split
      · exact List.cons_prefix_cons.mpr ⟨rfl, ih _⟩
      · exact List.nil_prefix

/-- A text that fits is taken whole. -/
theorem takeBytes_of_byteCount_le {room : Nat} {chars : List Char}
    (fits : byteCount chars ≤ room) : takeBytes room chars = chars := by
  induction chars generalizing room with
  | nil => rfl
  | cons c rest ih =>
      rw [byteCount_cons] at fits
      rw [takeBytes, if_pos (by omega), ih (by omega)]

end ProcessWatch.Text
