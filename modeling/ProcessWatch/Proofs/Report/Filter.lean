/-
Module: ProcessWatch.Proofs.Report.Filter
Purpose: The report of a filter has a line for each part of the filter, and what it shows of a part is
  read back from there.
Trusted boundary: none
Main exports: Filter.Part, Filter.Part.read?, Report.shown, Report.shown_filter,
  Report.trimEnd_filter

A line is told by its label.  No label begins another one, and a value cannot start a line of its own,
so that a command may have any name, a label included.
-/
import ProcessWatch.Proofs.Filter.Plain
import ProcessWatch.Proofs.Report.Lines

namespace ProcessWatch

/-! ## Parts -/

/-- What the report of a filter has a line for. -/
inductive Filter.Part where
  | switch
  | field (field : Filter.Field)
deriving DecidableEq, Repr

namespace Filter.Part

/-- The parts in the order of their lines. -/
def all : List Part :=
  [.switch, .field .pid, .field .parent, .field .command, .field .minLifetime, .field .maxLifetime]

/-- What stands in front of a part. -/
def label : Part → String
  | .switch => "Filter Enabled: "
  | .field .pid => "Target PID: "
  | .field .parent => "Target PPID: "
  | .field .command => "Target Command: "
  | .field .minLifetime => "Min Lifetime: "
  | .field .maxLifetime => "Max Lifetime: "

/-- What stands behind a part. -/
def note : Part → String
  | .switch => ""
  | .field .pid | .field .parent => " (0 = any)"
  | .field .command => " (empty = any)"
  | .field .minLifetime | .field .maxLifetime => " seconds (0 = no limit)"

/-- What the report of a filter shows of a part. -/
def text (filter : Filter) : Part → String
  | .switch => if filter.enabled then "YES" else "NO"
  | .field target => (filter.required target).text

/-- The line for a part. -/
def line (filter : Filter) (part : Part) : String :=
  part.label ++ part.text filter ++ part.note

/-- What a line shows of a part, if it begins with the label. -/
def read? (part : Part) (line : String) : Option String :=
  if part.label.toList.isPrefixOf line.toList then
    some (String.ofList
      ((line.toList.drop part.label.toList.length).rdrop part.note.toList.length))
  else
    none

end Filter.Part

/-- What a report shows of a part on the first line that has its label. -/
def Report.shown (report : String) (part : Filter.Part) : String :=
  ((Text.lines report).findSome? part.read?).getD ""

/-! ## Lines -/

namespace Filter.Part

variable {filter : Filter} {part other : Part}

theorem toList_line : (part.line filter).toList =
    part.label.toList ++ ((part.text filter).toList ++ part.note.toList) := by
  simp only [line, String.toList_append, List.append_assoc]

theorem read?_line : part.read? (part.line filter) = some (part.text filter) := by
  have begins : part.label.toList.isPrefixOf (part.line filter).toList = true := by
    rw [toList_line, List.isPrefixOf_iff_prefix]
    exact List.prefix_append _ _
  rw [read?, if_pos begins, toList_line, List.drop_left, List.rdrop_append_length,
    String.ofList_toList]

theorem mem_all (part : Part) : part ∈ all := by
  rcases part with _ | target
  · decide
  · cases target <;> decide

/-- No label begins another one. -/
theorem label_not_prefix (different : part ≠ other) :
    ¬ part.label.toList <+: other.label.toList := by
  have none : ∀ part ∈ all, ∀ other ∈ all, part ≠ other →
      ¬ part.label.toList <+: other.label.toList := by
    decide
  exact none part part.mem_all other other.mem_all different

theorem read?_line_of_ne (different : part ≠ other) : part.read? (other.line filter) = none := by
  have another : ¬ part.label.toList.isPrefixOf (other.line filter).toList = true := by
    rw [toList_line, List.isPrefixOf_iff_prefix]
    intro begins
    rcases List.prefix_or_prefix_of_prefix begins (List.prefix_append _ _) with inner | outer
    · exact label_not_prefix different inner
    · exact label_not_prefix different.symm outer
  rw [read?, if_neg another]

theorem findSome?_read?_line (filter : Filter) (part : Part) (lines : List String) :
    (all.map (line filter) ++ lines).findSome? part.read? = some (part.text filter) := by
  cases part with
  | switch => simp [all, read?_line]
  | field field => cases field <;> simp [all, read?_line, read?_line_of_ne]

theorem read?_title (part : Part) : part.read? "=== Process Filter Configuration ===" = none := by
  cases part with
  | switch => rfl
  | field field => cases field <;> rfl

end Filter.Part

/-! ## The report -/

namespace Report

open ProcessWatch.Filter (Part)

/-- The report is a title, the parts, and the commands that change them. -/
theorem filter_eq_ofLines (filter : Filter) :
    ∃ commands, Report.filter filter =
        ofLines ("=== Process Filter Configuration ===" ::
          Part.all.map (Part.line filter) ++ commands) ∧
      ∀ line ∈ commands, HoldsNoFeed line := by
  refine ⟨?commands, ?same, ?noFeed⟩
  case same =>
    simp only [Part.all, List.map_cons, List.map_nil, Part.line, Part.label, Part.note, Part.text,
      List.cons_append, List.nil_append, String.append_empty]
    rfl
  case noFeed => decide

theorem holdsNoFeed_line {filter : Filter} (plain : filter.Plain) (part : Part) :
    HoldsNoFeed (part.line filter) := by
  have around : ∀ part ∈ Part.all, HoldsNoFeed part.label ∧ HoldsNoFeed part.note := by
    decide
  obtain ⟨label, note⟩ := around part part.mem_all
  have text : HoldsNoFeed (part.text filter) := by
    cases part with
    | switch =>
        rw [Part.text]
        split <;> decide
    | field field =>
        by_cases given : (filter.required field).text = ""
        · rw [Part.text, given]
          decide
        · exact holdsNoFeed_of_isWord ((plain field).isWord_text given)
  exact holdsNoFeed_append.mpr ⟨holdsNoFeed_append.mpr ⟨label, text⟩, note⟩

/-- The report of a plain filter shows each part of it. -/
theorem shown_filter {filter : Filter} (plain : filter.Plain) (part : Part) :
    shown (Report.filter filter) part = part.text filter := by
  obtain ⟨commands, same, noFeed⟩ := filter_eq_ofLines filter
  have lines : ∀ line ∈ Part.all.map (Part.line filter) ++ commands, HoldsNoFeed line := by
    intro line member
    rcases List.mem_append.mp member with onPart | command
    · obtain ⟨part, -, rfl⟩ := List.mem_map.mp onPart
      exact holdsNoFeed_line plain part
    · exact noFeed line command
  rw [shown, same, List.cons_append, lines_ofLines (List.forall_mem_cons.mpr ⟨by decide, lines⟩),
    List.cons_append, List.findSome?_cons, Part.read?_title, List.append_assoc,
    Part.findSome?_read?_line, Option.getD_some]

/-- A session prints the report as it is. -/
theorem trimEnd_filter (filter : Filter) :
    Text.trimEnd (Report.filter filter) ++ "\n" = Report.filter filter := by
  have last : "reset            - Reset all filters".toList.getLast? = some 's' := by decide
  exact trimEnd_ofLines rfl last (by decide)

end Report

end ProcessWatch
