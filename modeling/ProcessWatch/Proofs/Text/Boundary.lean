/-
Module: ProcessWatch.Proofs.Text.Boundary
Purpose: What is left of a text that has to fit a number of bytes, and how a walk back over the bytes
  to the end of a character finds it.
Trusted boundary: none
Main exports: Text.isBoundary, Text.cut?, Text.LongestFitting, Text.longestFitting_takeBytes,
  Text.LongestFitting.cut?_eq
-/
import ProcessWatch.Text.Bytes

namespace ProcessWatch.Text

/-! ## Cutting at a byte -/

/-- A character begins at the byte position, or the text ends there. -/
def isBoundary (text : String) (position : Nat) : Bool :=
  String.Pos.Raw.isValid text ⟨position⟩

/-- The text in front of a byte position.  There is none if the position lies within a character or
behind the end. -/
def upTo? (text : String) (position : Nat) : Option String :=
  if valid : String.Pos.Raw.IsValid text ⟨position⟩ then
    some (text.sliceTo ⟨⟨position⟩, valid⟩).copy
  else
    none

/-- Walk back over the bytes from a position to the first boundary.  A walk that comes to the front
without finding one has no answer. -/
def boundaryUpTo? (text : String) : Nat → Option Nat
  | 0 => if isBoundary text 0 then some 0 else none
  | position + 1 =>
      if isBoundary text (position + 1) then some (position + 1) else boundaryUpTo? text position

/-- A text that fits `room` bytes as it stands, and one that does not up to the last boundary in the
room.  There is no answer if the walk to the boundary or the cut at it has none. -/
def cut? (room : Nat) (text : String) : Option String :=
  if text.utf8ByteSize ≤ room then some text else (boundaryUpTo? text room).bind (upTo? text)

/-- The text begins with the characters of `front`, which fit `room` bytes, and no longer beginning
fits. -/
structure LongestFitting (room : Nat) (text front : String) : Prop where
  begins : ∃ back, text = front ++ back
  fits : front.utf8ByteSize ≤ room
  longest : ∀ other back, text = other ++ back → other.utf8ByteSize ≤ room →
    other.utf8ByteSize ≤ front.utf8ByteSize

theorem isBoundary_iff {text : String} {position : Nat} :
    isBoundary text position = true ↔
      ∃ front back, text = front ++ back ∧ position = front.utf8ByteSize := by
  rw [isBoundary, String.Pos.Raw.isValid_eq_true_iff, String.Pos.Raw.isValid_iff_exists_append]
  constructor
  · rintro ⟨front, back, split, same⟩
    exact ⟨front, back, split, congrArg String.Pos.Raw.byteIdx same⟩
  · rintro ⟨front, back, split, same⟩
    exact ⟨front, back, split, congrArg String.Pos.Raw.mk same⟩

theorem upTo?_append (front back : String) :
    upTo? (front ++ back) front.utf8ByteSize = some front := by
  have valid : String.Pos.Raw.IsValid (front ++ back) ⟨front.utf8ByteSize⟩ :=
    String.Pos.Raw.isValid_iff_exists_append.mpr ⟨front, back, rfl, rfl⟩
  let position : (front ++ back).Pos := ⟨⟨front.utf8ByteSize⟩, valid⟩
  have split : position.Splits front back := ⟨rfl, rfl⟩
  rw [upTo?, dif_pos valid]
  exact congrArg some (position.splits.eq_left split)

namespace LongestFitting

variable {room : Nat} {text front : String}

/-- The walk back from the end of the room stops where the longest beginning ends. -/
theorem boundaryUpTo?_eq (longest : LongestFitting room text front) :
    boundaryUpTo? text room = some front.utf8ByteSize := by
  obtain ⟨⟨back, split⟩, fits, longest⟩ := longest
  induction room with
  | zero =>
      have empty : front.utf8ByteSize = 0 := Nat.le_zero.mp fits
      have here : isBoundary text 0 = true := isBoundary_iff.mpr ⟨front, back, split, empty.symm⟩
      rw [boundaryUpTo?, if_pos here, empty]
  | succ room inductionHypothesis =>
      rw [boundaryUpTo?]
      by_cases here : isBoundary text (room + 1) = true
      · obtain ⟨other, rest, otherSplit, size⟩ := isBoundary_iff.mp here
        have atMost := longest other rest otherSplit (Nat.le_of_eq size.symm)
        rw [if_pos here]
        exact congrArg some (by omega)
      · have elsewhere : front.utf8ByteSize ≠ room + 1 := fun size =>
          here (isBoundary_iff.mpr ⟨front, back, split, size.symm⟩)
        rw [if_neg here]
        exact inductionHypothesis (by omega) fun other rest otherSplit otherFits =>
          longest other rest otherSplit (Nat.le_succ_of_le otherFits)

theorem cut?_eq (longest : LongestFitting room text front) : cut? room text = some front := by
  have walked := longest.boundaryUpTo?_eq
  obtain ⟨⟨back, rfl⟩, fits, longest⟩ := longest
  rw [cut?]
  split
  · rename_i whole
    have atMost := longest (front ++ back) "" String.append_empty.symm whole
    have nothing : back.utf8ByteSize = 0 := by
      rw [String.utf8ByteSize_append] at atMost
      omega
    rw [String.utf8ByteSize_eq_zero_iff.mp nothing, String.append_empty]
  · rw [walked, Option.bind_some, upTo?_append]

end LongestFitting

/-! ## Taking characters -/

/-- Every beginning that fits is a beginning of what is taken. -/
theorem byteCount_le_takeBytes {room : Nat} {other back : List Char}
    (fits : byteCount other ≤ room) :
    byteCount other ≤ byteCount (takeBytes room (other ++ back)) := by
  induction other generalizing room with
  | nil => exact Nat.zero_le _
  | cons c other inductionHypothesis =>
      rw [byteCount_cons] at fits
      have later := inductionHypothesis (Nat.le_sub_of_add_le' fits)
      rw [List.cons_append, takeBytes, if_pos (Nat.le_of_add_right_le fits)]
      exact Nat.add_le_add_left later _

theorem longestFitting_takeBytes (room : Nat) (text : String) :
    LongestFitting room text (String.ofList (takeBytes room text.toList)) where
  begins := by
    obtain ⟨back, split⟩ := takeBytes_isPrefix room text.toList
    refine ⟨String.ofList back, ?_⟩
    rw [← String.ofList_append, split, String.ofList_toList]
  fits := by
    rw [utf8ByteSize_ofList]
    exact byteCount_takeBytes_le _ _
  longest := by
    rintro other back rfl fits
    rw [utf8ByteSize_eq_byteCount] at fits
    rw [utf8ByteSize_ofList, String.toList_append, utf8ByteSize_eq_byteCount]
    exact byteCount_le_takeBytes fits

/-- A text that is cut loses less than the size of a character from the room. -/
theorem lt_byteCount_takeBytes_add {room : Nat} {chars : List Char}
    (long : room < byteCount chars) : room < byteCount (takeBytes room chars) + 4 := by
  induction chars generalizing room with
  | nil => exact absurd long (Nat.not_lt_zero _)
  | cons c rest inductionHypothesis =>
      rw [takeBytes]
      split
      · rename_i fits
        rw [byteCount_cons] at long ⊢
        have later := @inductionHypothesis (room - c.utf8Size) (by omega)
        omega
      · have size : c.utf8Size ≤ 4 := c.utf8Size_le_four
        rw [byteCount_nil]
        omega

/-- What comes behind a text that fills the room is not looked at. -/
theorem takeBytes_append_of_le {room : Nat} {chars : List Char} (full : room ≤ byteCount chars)
    (more : List Char) : takeBytes room (chars ++ more) = takeBytes room chars := by
  induction chars generalizing room with
  | nil =>
      cases more with
      | nil => rfl
      | cons c more =>
          have size : 0 < c.utf8Size := c.utf8Size_pos
          have noRoom : ¬ c.utf8Size ≤ room := Nat.not_le_of_lt (Nat.lt_of_le_of_lt full size)
          simp only [List.nil_append, takeBytes, noRoom, if_false]
  | cons c chars inductionHypothesis =>
      rw [List.cons_append, takeBytes, takeBytes]
      split
      · rename_i fits
        rw [byteCount_cons] at full
        rw [inductionHypothesis (Nat.sub_le_of_le_add (Nat.add_comm _ _ ▸ full))]
      · rfl

end ProcessWatch.Text
