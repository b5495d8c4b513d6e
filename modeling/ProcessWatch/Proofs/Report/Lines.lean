/-
Module: ProcessWatch.Proofs.Report.Lines
Purpose: A report splits at its line feeds into the lines that it was made of, and two reports are the
  same only if their lines are.
Trusted boundary: none
Main exports: Text.lines, Report.HoldsNoFeed, Report.lines_ofLines, Report.trimEnd_ofLines
-/
import ProcessWatch.Proofs.Text.Trim
import ProcessWatch.Report.Basic

namespace ProcessWatch

/-- The parts of a text between its line feeds. -/
def Text.lines (text : String) : List String :=
  (text.toList.splitOn '\n').map String.ofList

namespace Report

/-- The text can be a line of a report. -/
def HoldsNoFeed (line : String) : Prop := '\n' ∉ line.toList

instance (line : String) : Decidable (HoldsNoFeed line) :=
  inferInstanceAs (Decidable ('\n' ∉ line.toList))

theorem holdsNoFeed_append {front back : String} :
    HoldsNoFeed (front ++ back) ↔ HoldsNoFeed front ∧ HoldsNoFeed back := by
  simp only [HoldsNoFeed, String.toList_append, List.mem_append, not_or]

theorem holdsNoFeed_of_isWord {word : String} (isWord : Text.IsWord word.toList) :
    HoldsNoFeed word := by
  intro feed
  exact absurd (isWord.visible _ feed) (by decide)

theorem holdsNoFeed_intercalate {parts : List String} (noFeed : ∀ part ∈ parts, HoldsNoFeed part) :
    HoldsNoFeed (" ".intercalate parts) := by
  induction parts with
  | nil => exact nofun
  | cons part parts inductionHypothesis =>
      obtain ⟨first, others⟩ := List.forall_mem_cons.mp noFeed
      cases parts with
      | nil => simpa using first
      | cons next parts =>
          rw [String.intercalate_cons_cons, holdsNoFeed_append, holdsNoFeed_append]
          exact ⟨⟨first, by decide⟩, inductionHypothesis others⟩

theorem lines_ofLines_cons {line : String} (noFeed : HoldsNoFeed line) (lines : List String) :
    Text.lines (ofLines (line :: lines)) = line :: Text.lines (ofLines lines) := by
  have front : (ofLines (line :: lines)).toList = line.toList ++ '\n' :: (ofLines lines).toList := by
    simp [ofLines]
  rw [Text.lines, front, List.splitOn_append_cons_self_of_not_mem noFeed, List.map_cons,
    String.ofList_toList, Text.lines]

/-- Every line of a report is ended, so that nothing stands behind the last one. -/
theorem lines_ofLines {lines : List String} (noFeed : ∀ line ∈ lines, HoldsNoFeed line) :
    Text.lines (ofLines lines) = lines ++ [""] := by
  induction lines with
  | nil => rfl
  | cons line lines inductionHypothesis =>
      obtain ⟨first, others⟩ := List.forall_mem_cons.mp noFeed
      rw [lines_ofLines_cons first, inductionHypothesis others, List.cons_append]

/-- A report whose last line ends visibly loses just its last line feed with the blanks at its end. -/
theorem trimEnd_ofLines {lines : List String} {last : String} {c : Char}
    (found : lines.getLast? = some last) (ends : last.toList.getLast? = some c)
    (visible : Text.isBlank c = false) : Text.trimEnd (ofLines lines) ++ "\n" = ofLines lines := by
  obtain ⟨front, rfl⟩ := List.getLast?_eq_some_iff.mp found
  have feed : ∀ c ∈ ['\n'], Text.isBlank c = true := List.forall_mem_singleton.mpr rfl
  have chars : (ofLines (front ++ [last])).toList =
      ((ofLines front).toList ++ last.toList) ++ ['\n'] := by
    simp [ofLines]
  have endsVisibly : ∀ d ∈ ((ofLines front).toList ++ last.toList).getLast?,
      Text.isBlank d = false := by
    rw [List.getLast?_append, ends]
    rintro d ⟨⟩
    exact visible
  apply String.toList_injective
  rw [String.toList_append, Text.trimEnd, String.toList_ofList, chars,
    Text.dropBlankEnd_append feed endsVisibly]
  rfl

end Report

end ProcessWatch
