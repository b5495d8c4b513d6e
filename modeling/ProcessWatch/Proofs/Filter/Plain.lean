/-
Module: ProcessWatch.Proofs.Filter.Plain
Purpose: A filter that is changed by words only never requires a zero or an empty name, so that each of
  its requirements is known from the text of its value, and a word of that text puts it back.
Trusted boundary: none
Main exports: Filter.required, Filter.Change.admits, Filter.Change.text, Filter.Field.blank,
  Filter.Plain, Filter.Call.Textual, Filter.accepts_iff_admits, Filter.Change.Plain.eq_clear,
  Filter.Change.Plain.perform_set_text, Filter.Plain.perform
-/
import ProcessWatch.Proofs.CommandName
import ProcessWatch.Proofs.Filter.Update
import ProcessWatch.Proofs.Text.Padding

namespace ProcessWatch.Filter

/-! ## One requirement -/

namespace Change

/-- The field that is changed. -/
def field : Change → Field
  | .pid _ => .pid
  | .parent _ => .parent
  | .command _ => .command
  | .minLifetime _ => .minLifetime
  | .maxLifetime _ => .maxLifetime

/-- A process meets the requirement. -/
def admits (subject : Subject) : Change → Bool
  | .pid number => meets (· = subject.pid) number
  | .parent number => meets (· = subject.parent) number
  | .command name => meets (·.text = subject.name) name
  | .minLifetime seconds => subject.lifetime.all fun lifetime => meets (· ≤ lifetime) seconds
  | .maxLifetime seconds => subject.lifetime.all fun lifetime => meets (lifetime ≤ ·) seconds

/-- The value, zero or nothing standing for a missing one. -/
def text : Change → String
  | .pid number => toString (number.getD 0).toNat
  | .parent number => toString (number.getD 0).toNat
  | .command name => (name.getD .empty).text
  | .minLifetime seconds => toString (seconds.getD 0)
  | .maxLifetime seconds => toString (seconds.getD 0)

/-- The value is no zero and no empty name, and it can be written as a word of a line. -/
def Plain : Change → Prop
  | .pid number => number ≠ some 0
  | .parent number => number ≠ some 0
  | .command name => ∀ given, name = some given → Text.IsWord given.text.toList
  | .minLifetime seconds => seconds ≠ some 0 ∧ ∀ least, seconds = some least → least < Word.size
  | .maxLifetime seconds =>
      seconds ≠ some 0 ∧ ∀ greatest, seconds = some greatest → greatest < Word.size

end Change

namespace Field

/-- Take the requirement on a field away. -/
def clear : Field → Change
  | .pid => .pid none
  | .parent => .parent none
  | .command => .command none
  | .minLifetime => .minLifetime none
  | .maxLifetime => .maxLifetime none

/-- What stands for a missing value. -/
def blank : Field → String
  | .command => ""
  | _ => "0"

end Field

/-- The change that makes the requirement on a field what it is in this filter. -/
def required (filter : Filter) : Field → Change
  | .pid => .pid filter.pid
  | .parent => .parent filter.parent
  | .command => .command filter.command
  | .minLifetime => .minLifetime filter.minLifetime
  | .maxLifetime => .maxLifetime filter.maxLifetime

/-- Every requirement of the filter is plain. -/
def Plain (filter : Filter) : Prop := ∀ field, (filter.required field).Plain

variable {filter first second : Filter} {change : Change} {field : Field}

@[simp] theorem field_required : (filter.required field).field = field := by
  cases field <;> rfl

/-- A change gives one field the new requirement and leaves the others as they are. -/
theorem required_apply :
    (filter.apply change).required field =
      if field = change.field then change else filter.required field := by
  cases change <;> cases field <;> rfl

@[simp] theorem enabled_apply : (filter.apply change).enabled = filter.enabled := by
  cases change <;> rfl

/-- An empty filter requires nothing of any field. -/
@[simp] theorem required_empty : ({} : Filter).required field = field.clear := by
  cases field <;> rfl

/-- A filter is known from its switch and its requirements. -/
theorem eq_of_required (enabled : first.enabled = second.enabled)
    (required : ∀ field, first.required field = second.required field) : first = second := by
  have pid := required .pid
  have parent := required .parent
  have command := required .command
  have minLifetime := required .minLifetime
  have maxLifetime := required .maxLifetime
  cases first
  cases second
  simp only [Filter.required, Change.pid.injEq, Change.parent.injEq, Change.command.injEq,
    Change.minLifetime.injEq, Change.maxLifetime.injEq] at pid parent command minLifetime maxLifetime
  subst enabled pid parent command minLifetime maxLifetime
  rfl

/-- A filter lets a process pass if it is not enabled or the process meets each of the requirements. -/
theorem accepts_iff_admits (subject : Subject) :
    filter.accepts subject = true ↔
      filter.enabled = false ∨ ∀ field, (filter.required field).admits subject = true := by
  have bounds : subject.lifetime.all filter.acceptsLifetime = true ↔
      (filter.required .minLifetime).admits subject = true ∧
        (filter.required .maxLifetime).admits subject = true := by
    cases found : subject.lifetime with
    | none => simp [required, Change.admits, found]
    | some lifetime => simp [required, Change.admits, found, acceptsLifetime]
  simp only [accepts, acceptsSubject, Bool.or_eq_true, Bool.not_eq_true', Bool.and_eq_true, bounds]
  constructor
  · rintro (off | ⟨⟨⟨pid, parent⟩, command⟩, least, greatest⟩)
    · exact .inl off
    · right
      intro field
      cases field with
      | pid => exact pid
      | parent => exact parent
      | command => exact command
      | minLifetime => exact least
      | maxLifetime => exact greatest
  · rintro (off | met)
    · exact .inl off
    · exact .inr ⟨⟨⟨met .pid, met .parent⟩, met .command⟩, met .minLifetime, met .maxLifetime⟩

/-- Every process meets a requirement that is missing. -/
theorem Field.admits_clear (field : Field) (subject : Subject) :
    field.clear.admits subject = true := by
  cases field with
  | minLifetime => cases found : subject.lifetime <;> simp [clear, Change.admits, found, meets]
  | maxLifetime => cases found : subject.lifetime <;> simp [clear, Change.admits, found, meets]
  | _ => rfl

theorem Field.plain_clear (field : Field) : field.clear.Plain := by
  cases field <;> simp [clear, Change.Plain]

/-! ## Values and their texts -/

/-- A zero is no requirement. -/
theorem unlessZero_ne_some_zero {α : Type} [DecidableEq α] [OfNat α 0] (value : α) :
    unlessZero value ≠ some 0 := by
  rw [unlessZero]
  split
  case isTrue => exact nofun
  case isFalse positive =>
    intro zero
    exact positive (Option.some.inj zero)

/-- Where zero stands for nothing, a requirement is known from its number. -/
theorem unlessZero_getD {α : Type} [DecidableEq α] [OfNat α 0] {value : Option α}
    (plain : value ≠ some 0) : unlessZero (value.getD 0) = value := by
  cases value with
  | none => exact if_pos rfl
  | some value =>
      have positive : value ≠ 0 := fun zero => plain (congrArg some zero)
      exact if_neg positive

theorem eq_of_mem_unlessZero {value seconds : Nat} (kept : unlessZero value = some seconds) :
    seconds = value := by
  rw [unlessZero] at kept
  split at kept
  · cases kept
  · exact (Option.some.inj kept).symm

theorem unlessZero_plain {limit value : Nat} (fits : value < limit) :
    unlessZero value ≠ some 0 ∧ ∀ seconds, unlessZero value = some seconds → seconds < limit :=
  ⟨unlessZero_ne_some_zero value, fun _ kept => eq_of_mem_unlessZero kept ▸ fits⟩

theorem getD_zero_lt {limit : Nat} {value : Option Nat} (positive : 0 < limit)
    (fits : ∀ seconds, value = some seconds → seconds < limit) : value.getD 0 < limit := by
  cases value with
  | none => exact positive
  | some seconds => exact fits seconds rfl

/-- The text of a plain value is blank only if the value is missing. -/
theorem Change.Plain.eq_clear (plain : change.Plain) (shown : change.text = change.field.blank) :
    change = change.field.clear := by
  have zero : ∀ value : Nat, toString value = "0" → value = 0 := by
    intro value same
    have read := Text.digitsValue?_toString value
    rw [same] at read
    exact (Option.some.inj read).symm
  cases change with
  | pid number =>
      have none : number.getD 0 = 0 := UInt32.toNat_inj.mp (zero _ shown)
      rw [← unlessZero_getD plain, none]
      rfl
  | parent number =>
      have none : number.getD 0 = 0 := UInt32.toNat_inj.mp (zero _ shown)
      rw [← unlessZero_getD plain, none]
      rfl
  | command name =>
      cases name with
      | none => rfl
      | some name =>
          have empty : name.text.toList = [] := congrArg String.toList shown
          exact absurd empty (plain name rfl).ne_nil
  | minLifetime seconds =>
      rw [← unlessZero_getD plain.1, zero _ shown]
      rfl
  | maxLifetime seconds =>
      rw [← unlessZero_getD plain.1, zero _ shown]
      rfl

/-- Only a name can be written as nothing. -/
theorem Change.text_eq_blank_of_empty (empty : change.text = "") :
    change.text = change.field.blank := by
  have digits : ∀ value : Nat, toString value ≠ "" := by
    intro value none
    have isWord := Text.isWord_of_unsigned (Text.unsigned_toString value)
    exact isWord.ne_nil (congrArg String.toList none)
  cases change with
  | command name => exact empty
  | _ => exact absurd empty (digits _)

/-- The text of a plain value is a word, unless it is empty. -/
theorem Change.Plain.isWord_text (plain : change.Plain) (given : change.text ≠ "") :
    Text.IsWord change.text.toList := by
  cases change with
  | command name =>
      cases name with
      | none => exact absurd rfl given
      | some name => exact plain name rfl
  | _ => exact Text.isWord_of_unsigned (Text.unsigned_toString _)

/-! ## Requests -/

/-- A word demands a plain change. -/
theorem Demands.exists_change {value : String} {call : Call} {next : Filter}
    (isWord : Text.IsWord value.toList) (demands : filter.Demands value field call next) :
    ∃ change : Change, next = filter.apply change ∧ change.Plain := by
  cases demands with
  | pid numeral => exact ⟨.pid (unlessZero _), rfl, unlessZero_ne_some_zero _⟩
  | parent numeral => exact ⟨.parent (unlessZero _), rfl, unlessZero_ne_some_zero _⟩
  | command given =>
      refine ⟨.command (some (CommandName.ofString value)), rfl, ?_⟩
      intro name same
      exact Option.some.inj same ▸ CommandName.isWord_ofString isWord
  | minLifetime numeral fits => exact ⟨.minLifetime (unlessZero _), rfl, unlessZero_plain fits⟩
  | maxLifetime numeral fits => exact ⟨.maxLifetime (unlessZero _), rfl, unlessZero_plain fits⟩

/-- A plain change is demanded by the text of its value, unless this is empty. -/
theorem Change.Plain.demands (plain : change.Plain) (given : change.text ≠ "") (filter : Filter) :
    ∃ call, filter.Demands change.text change.field call (filter.apply change) := by
  cases change with
  | pid number =>
      have kept := unlessZero_getD plain
      have demanded : filter.Demands (toString (number.getD 0).toNat) .pid _ _ :=
        .pid (Text.unsigned_toString _)
      rw [← unlessZero, kept] at demanded
      exact ⟨_, demanded⟩
  | parent number =>
      have kept := unlessZero_getD plain
      have demanded : filter.Demands (toString (number.getD 0).toNat) .parent _ _ :=
        .parent (Text.unsigned_toString _)
      rw [← unlessZero, kept] at demanded
      exact ⟨_, demanded⟩
  | command name =>
      cases name with
      | none => exact absurd rfl given
      | some name =>
          have demanded : filter.Demands name.text .command _ _ := .command given
          rw [CommandName.ofString_text] at demanded
          exact ⟨_, demanded⟩
  | minLifetime seconds =>
      have kept := unlessZero_getD plain.1
      have demanded : filter.Demands (toString (seconds.getD 0)) .minLifetime _ _ :=
        .minLifetime (Text.unsigned_toString _) (getD_zero_lt (by decide) plain.2)
      rw [← unlessZero, kept] at demanded
      exact ⟨_, demanded⟩
  | maxLifetime seconds =>
      have kept := unlessZero_getD plain.1
      have demanded : filter.Demands (toString (seconds.getD 0)) .maxLifetime _ _ :=
        .maxLifetime (Text.unsigned_toString _) (getD_zero_lt (by decide) plain.2)
      rw [← unlessZero, kept] at demanded
      exact ⟨_, demanded⟩

/-- The text of a plain value gives any filter the value. -/
theorem Change.Plain.perform_set_text (plain : change.Plain) (given : change.text ≠ "")
    (filter : Filter) : (filter.perform (.set change.field change.text)).filter =
      filter.apply change := by
  have untouched := Text.trim_eq_iff.mpr (plain.isWord_text given).trims
  obtain ⟨call, demands⟩ := plain.demands given filter
  have performed : filter.performSet change.field change.text = ⟨.done, filter.apply change, _⟩ :=
    performSet_of_demands (untouched.symm ▸ demands)
  exact congrArg Outcome.filter performed

/-- A request that a line can make: its value is a word. -/
inductive Call.Textual : Call → Prop where
  | enable : Textual .enable
  | disable : Textual .disable
  | reset : Textual .reset
  | set {field : Field} {value : String} (isWord : Text.IsWord value.toList) :
      Textual (.set field value)

/-- An empty filter is plain. -/
theorem plain_empty : ({} : Filter).Plain := by
  intro field
  rw [required_empty]
  exact field.plain_clear

/-- A plain change of a plain filter leaves it plain. -/
theorem Plain.apply (plain : filter.Plain) (changed : change.Plain) :
    (filter.apply change).Plain := by
  intro field
  rw [required_apply]
  split
  · exact changed
  · exact plain field

/-- Whether a filter is enabled has nothing to do with its being plain. -/
theorem Plain.set_enabled (plain : filter.Plain) (enabled : Bool) :
    ({ filter with enabled := enabled } : Filter).Plain := by
  intro field
  have same : ({ filter with enabled := enabled } : Filter).required field =
      filter.required field := by
    cases field <;> rfl
  exact same ▸ plain field

/-- A request that a line makes leaves a plain filter plain. -/
theorem Plain.perform {call : Call} (plain : filter.Plain) (textual : call.Textual) :
    (filter.perform call).filter.Plain := by
  cases textual with
  | enable => exact plain.set_enabled true
  | disable => exact plain.set_enabled false
  | reset => exact plain_empty
  | @set field value isWord =>
      have untouched := Text.trim_eq_iff.mpr isWord.trims
      rcases Field.demands_or_refusal filter field value with ⟨call, next, demands⟩ | refused
      · obtain ⟨change, changed, changedPlain⟩ := demands.exists_change isWord
        rw [← untouched] at demands
        rw [Filter.perform, performSet_of_demands demands, changed]
        exact plain.apply changedPlain
      · rw [← untouched] at refused
        rw [Filter.perform, performSet_of_refusal refused]
        exact plain

end ProcessWatch.Filter
