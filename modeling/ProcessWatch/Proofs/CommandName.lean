/-
Module: ProcessWatch.Proofs.CommandName
Purpose: What a text is cut to as the name of a command: its longest beginning of whole characters that
  fits, which is still a word if the text is one.
Trusted boundary: none
Main exports: Text.isWord_takeBytes, CommandName.isWord_ofString, CommandName.longest_fitting_stable
-/
import ProcessWatch.CommandName
import ProcessWatch.Proofs.Text.Boundary
import ProcessWatch.Proofs.Text.Words

namespace ProcessWatch

/-- Room for one character of any size is room for the first one. -/
theorem Text.takeBytes_ne_nil {room : Nat} {chars : List Char} (wide : 4 ≤ room)
    (given : chars ≠ []) : takeBytes room chars ≠ [] := by
  cases chars with
  | nil => exact absurd rfl given
  | cons c rest =>
      have size : c.utf8Size ≤ 4 := c.utf8Size_le_four
      rw [takeBytes, if_pos (Nat.le_trans size wide)]
      exact List.cons_ne_nil _ _

theorem Text.isWord_takeBytes {room : Nat} {chars : List Char} (wide : 4 ≤ room)
    (isWord : IsWord chars) : IsWord (takeBytes room chars) where
  ne_nil := takeBytes_ne_nil wide isWord.ne_nil
  visible := fun c member => isWord.visible c ((takeBytes_isPrefix room chars).subset member)

namespace CommandName

theorem isWord_ofString {text : String} (isWord : Text.IsWord text.toList) :
    Text.IsWord (ofString text).text.toList := by
  rw [ofString, String.toList_ofList]
  exact Text.isWord_takeBytes (by decide) isWord

/-! ## How much of a text a name keeps -/

theorem longestFitting_ofString (text : String) :
    Text.LongestFitting capacity text (ofString text).text :=
  Text.longestFitting_takeBytes capacity text

theorem text_ofString_eq_iff {text : String} :
    (ofString text).text = text ↔ text.utf8ByteSize ≤ capacity :=
  ⟨fun same => same ▸ (ofString text).fits, text_ofString_of_fits⟩

/-- A name that is cut is at most three bytes short. -/
theorem capacity_lt_size_add_four {text : String} (long : capacity < text.utf8ByteSize) :
    capacity < (ofString text).text.utf8ByteSize + 4 := by
  rw [Text.utf8ByteSize_eq_byteCount] at long
  rw [ofString, Text.utf8ByteSize_ofList]
  exact Text.lt_byteCount_takeBytes_add long

theorem text_ofString_ne_empty {text : String} (given : text ≠ "") :
    (ofString text).text ≠ "" := by
  intro empty
  have chars : Text.takeBytes capacity text.toList = [] :=
    (String.toList_ofList).symm.trans (congrArg String.toList empty)
  refine Text.takeBytes_ne_nil (by decide) ?_ chars
  exact fun nothing => given (String.toList_eq_nil_iff.mp nothing)

theorem ofString_append {text : String} (full : capacity ≤ text.utf8ByteSize) (more : String) :
    ofString (text ++ more) = ofString text := by
  rw [Text.utf8ByteSize_eq_byteCount] at full
  apply CommandName.ext
  have same : Text.takeBytes capacity (text ++ more).toList =
      Text.takeBytes capacity text.toList := by
    rw [String.toList_append, Text.takeBytes_append_of_le full]
  exact congrArg String.ofList same

/-- The walk back from the fifteenth byte comes to an end, the cut there goes through no character, and
what it leaves is the name: the longest beginning of the text that fits.  It is the text itself exactly
if the text fits, at most three bytes short if it does not, and empty only if the text is.  Cutting a
name again changes nothing, and neither does what follows fifteen bytes. -/
theorem longest_fitting_stable (text more : String) :
    Text.cut? capacity text = some (ofString text).text ∧
      Text.LongestFitting capacity text (ofString text).text ∧
      ((ofString text).text = text ↔ text.utf8ByteSize ≤ capacity) ∧
      (capacity < text.utf8ByteSize → 12 ≤ (ofString text).text.utf8ByteSize) ∧
      (text ≠ "" → (ofString text).text ≠ "") ∧
      ofString (ofString text).text = ofString text ∧
      (capacity ≤ text.utf8ByteSize → ofString (text ++ more) = ofString text) := by
  have longest := longestFitting_ofString text
  refine ⟨longest.cut?_eq, longest, text_ofString_eq_iff, ?_, text_ofString_ne_empty,
    ofString_text _, fun full => ofString_append full more⟩
  intro long
  have short := capacity_lt_size_add_four long
  have size : capacity = 15 := rfl
  omega

/-- A character of two bytes across the end of the room is left out whole, and one of four bytes leaves
three bytes of the room empty. -/
theorem longest_fitting_stable_of_wide :
    let narrow := "abcdefghijklmné"
    let wide := "abcdefghijkl😀"
    capacity < narrow.utf8ByteSize ∧ capacity < wide.utf8ByteSize ∧
      Text.isBoundary narrow 15 = false ∧
      Text.cut? capacity narrow = some "abcdefghijklmn" ∧
      Text.cut? capacity wide = some "abcdefghijkl" ∧
      12 ≤ (ofString wide).text.utf8ByteSize ∧ (ofString narrow).text ≠ "" ∧
      ofString (narrow ++ "x") = ofString narrow := by
  intro narrow wide
  have narrowLong : capacity < narrow.utf8ByteSize := by decide
  have wideLong : capacity < wide.utf8ByteSize := by decide
  have narrowName : (ofString narrow).text = "abcdefghijklmn" := by decide +kernel
  have wideName : (ofString wide).text = "abcdefghijkl" := by decide +kernel
  obtain ⟨narrowCut, -, -, -, given, -, stable⟩ := longest_fitting_stable narrow "x"
  obtain ⟨wideCut, -, -, short, -⟩ := longest_fitting_stable wide ""
  rw [narrowName] at narrowCut
  rw [wideName] at wideCut
  exact ⟨narrowLong, wideLong, by decide +kernel, narrowCut, wideCut, short wideLong, given (by decide),
    stable (Nat.le_of_lt narrowLong)⟩

end CommandName

end ProcessWatch
