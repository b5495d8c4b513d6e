/-
Module: ProcessWatch.Proofs.Filter.Update
Purpose: Which texts change a requirement of a filter, and that they change it as a typed value does.
Trusted boundary: none
Main exports: Filter.Demands, Filter.Field.refusal, Filter.set_done_iff_demanded
-/
import ProcessWatch.Filter.Call
import ProcessWatch.Proofs.Text.Numeral
import ProcessWatch.Proofs.Text.Trim

namespace ProcessWatch.Filter

/-- A value without outer blanks demands a change of one requirement: the request with a typed value
that it stands for, and the filter that comes of it. -/
inductive Demands (filter : Filter) (value : String) : Field → Call → Filter → Prop where
  | pid {pid : Pid} (numeral : Text.Unsigned value.toList pid.toNat) :
      Demands filter value .pid (.setPid pid)
        { filter with pid := if pid = 0 then none else some pid }
  | parent {pid : Pid} (numeral : Text.Unsigned value.toList pid.toNat) :
      Demands filter value .parent (.setParent pid)
        { filter with parent := if pid = 0 then none else some pid }
  | command (given : value ≠ "") :
      Demands filter value .command (.setCommand value)
        { filter with command := some (CommandName.ofString value) }
  | minLifetime {seconds : Nat} (numeral : Text.Unsigned value.toList seconds)
      (fits : seconds < Word.size) :
      Demands filter value .minLifetime (.setMinLifetime seconds)
        { filter with minLifetime := if seconds = 0 then none else some seconds }
  | maxLifetime {seconds : Nat} (numeral : Text.Unsigned value.toList seconds)
      (fits : seconds < Word.size) :
      Demands filter value .maxLifetime (.setMaxLifetime seconds)
        { filter with maxLifetime := if seconds = 0 then none else some seconds }

/-- Why a value is refused for a field. -/
def Field.refusal (value : String) : Field → FilterError
  | .command => .emptyCommand
  | field => .invalidNumber field.keyword value

variable {filter next : Filter} {field : Field} {value : String} {call : Call}

/-! ## Values -/

section Number

variable {α : Type} {read : Option α} (change : α → Change)

theorem Field.map_number_of_some {number : α} (found : read = some number) :
    (field.number value read).map change = .ok (change number) := by
  rw [found]
  rfl

theorem Field.map_number_of_none (missing : read = none) :
    (field.number value read).map change = .error (.invalidNumber field.keyword value) := by
  rw [missing]
  rfl

end Number

theorem Field.readTrimmed_of_demands (demands : filter.Demands value field call next) :
    ∃ change, field.readTrimmed value = .ok change ∧ filter.apply change = next := by
  cases demands with
  | pid numeral =>
      have found := Text.readUInt32?_eq_some_iff.mpr numeral
      exact ⟨_, map_number_of_some _ found, rfl⟩
  | parent numeral =>
      have found := Text.readUInt32?_eq_some_iff.mpr numeral
      exact ⟨_, map_number_of_some _ found, rfl⟩
  | command given => exact ⟨_, if_neg given, rfl⟩
  | minLifetime numeral fits =>
      have found := Text.readNatural?_eq_some_iff.mpr ⟨numeral, fits⟩
      exact ⟨_, map_number_of_some _ found, rfl⟩
  | maxLifetime numeral fits =>
      have found := Text.readNatural?_eq_some_iff.mpr ⟨numeral, fits⟩
      exact ⟨_, map_number_of_some _ found, rfl⟩

theorem Field.demands_or_refusal (filter : Filter) (field : Field) (value : String) :
    (∃ call next, filter.Demands value field call next) ∨
      field.readTrimmed value = .error (field.refusal value) := by
  cases field with
  | pid =>
      cases found : Text.readUInt32? value with
      | some pid => exact Or.inl ⟨_, _, .pid (Text.readUInt32?_eq_some_iff.mp found)⟩
      | none => exact Or.inr (map_number_of_none _ found)
  | parent =>
      cases found : Text.readUInt32? value with
      | some pid => exact Or.inl ⟨_, _, .parent (Text.readUInt32?_eq_some_iff.mp found)⟩
      | none => exact Or.inr (map_number_of_none _ found)
  | command =>
      by_cases given : value = ""
      · exact Or.inr (if_pos given)
      · exact Or.inl ⟨_, _, .command given⟩
  | minLifetime =>
      cases found : Text.readNatural? Word.size value with
      | some seconds =>
          obtain ⟨numeral, fits⟩ := Text.readNatural?_eq_some_iff.mp found
          exact Or.inl ⟨_, _, .minLifetime numeral fits⟩
      | none => exact Or.inr (map_number_of_none _ found)
  | maxLifetime =>
      cases found : Text.readNatural? Word.size value with
      | some seconds =>
          obtain ⟨numeral, fits⟩ := Text.readNatural?_eq_some_iff.mp found
          exact Or.inl ⟨_, _, .maxLifetime numeral fits⟩
      | none => exact Or.inr (map_number_of_none _ found)

/-! ## Requests -/

theorem perform_of_demands (demands : filter.Demands value field call next) :
    filter.perform call = ⟨.done, next, []⟩ := by
  cases demands with
  | command given => simp only [perform, setCommand, apply, if_neg given]
  | _ => rfl

theorem performSet_of_demands {text : String}
    (demands : filter.Demands (Text.trim text) field call next) :
    filter.performSet field text = ⟨.done, next, [.filterUpdated field (Text.trim text)]⟩ := by
  obtain ⟨change, read, applied⟩ := Field.readTrimmed_of_demands demands
  simp only [performSet, set, Field.read, read, Except.map, applied]

theorem performSet_of_refusal {text : String}
    (refused : field.readTrimmed (Text.trim text) = .error (field.refusal (Text.trim text))) :
    filter.performSet field text = ⟨.refused (field.refusal (Text.trim text)), filter, []⟩ := by
  simp only [performSet, set, Field.read, refused, Except.map]

/-- A text changes a requirement exactly if what is left of it without its outer blanks demands a
change.  It leads to the filter that the typed value leads to, in which nothing but that requirement is
new; and a text that demands nothing is refused and changes nothing. -/
theorem set_done_iff_demanded (filter : Filter) (field : Field) (text : String) :
    let value := Text.trim text
    let outcome := filter.perform (.set field text)
    (∀ other : String, Text.Trims text.toList other.toList ↔ other = value) ∧
      (outcome.answer = .done ↔ ∃ call next, filter.Demands value field call next) ∧
      (∀ call next, filter.Demands value field call next →
        outcome = ⟨.done, next, [.filterUpdated field value]⟩ ∧
          filter.perform call = ⟨.done, next, []⟩) ∧
      ((∀ call next, ¬ filter.Demands value field call next) →
        outcome = ⟨.refused (field.refusal value), filter, []⟩) := by
  intro value outcome
  refine ⟨fun other => Text.trim_eq_iff.symm.trans eq_comm, ?_, ?_, ?_⟩
  · constructor
    · intro done
      rcases Field.demands_or_refusal filter field value with demanded | refused
      · exact demanded
      · have refusal : outcome.answer = .refused (field.refusal value) :=
          congrArg Outcome.answer (performSet_of_refusal refused)
        rw [refusal] at done
        cases done
    · rintro ⟨call, next, demands⟩
      exact congrArg Outcome.answer (performSet_of_demands demands)
  · exact fun call next demands => ⟨performSet_of_demands demands, perform_of_demands demands⟩
  · intro nothing
    rcases Field.demands_or_refusal filter field value with ⟨call, next, demands⟩ | refused
    · exact absurd demands (nothing call next)
    · exact performSet_of_refusal refused

/-- A plus, leading zeros and blanks of any kind do not matter, and zero takes a requirement away; the
first number above a word is refused. -/
theorem set_done_iff_demanded_of_sign :
    let filter : Filter := { enabled := true, parent := some 7, minLifetime := some 3 }
    Demands filter "+042" .pid (.setPid 42) { filter with pid := some 42 } ∧
      filter.perform (.set .pid "\t+042\u00a0\n") =
        ⟨.done, { filter with pid := some 42 }, [.filterUpdated .pid "+042"]⟩ ∧
      filter.perform (.setPid 42) = ⟨.done, { filter with pid := some 42 }, []⟩ ∧
      filter.perform (.set .minLifetime " 000") =
        ⟨.done, { filter with minLifetime := none }, [.filterUpdated .minLifetime "000"]⟩ ∧
      filter.perform (.set .parent " 4294967296 ") =
        ⟨.refused (.invalidNumber "ppid" "4294967296"), filter, []⟩ := by
  intro filter
  have sign : Text.Unsigned "+042".toList (42 : Pid).toNat := Text.readUInt32?_eq_some_iff.mp rfl
  have zero : Text.Unsigned "000".toList 0 ∧ 0 < Word.size := Text.readNatural?_eq_some_iff.mp rfl
  have large : ∀ call next, ¬ Demands filter "4294967296" .parent call next := by
    intro call next demands
    cases demands with
    | parent numeral => cases Text.readUInt32?_eq_some_iff.mpr numeral
  obtain ⟨-, -, changes, -⟩ := set_done_iff_demanded filter .pid "\t+042\u00a0\n"
  obtain ⟨textual, typed⟩ := changes _ _ (.pid sign)
  obtain ⟨-, -, clears, -⟩ := set_done_iff_demanded filter .minLifetime " 000"
  obtain ⟨cleared, -⟩ := clears _ _ (.minLifetime zero.1 zero.2)
  obtain ⟨-, -, -, refuses⟩ := set_done_iff_demanded filter .parent " 4294967296 "
  exact ⟨.pid sign, textual, typed, cleared, refuses large⟩

end ProcessWatch.Filter
