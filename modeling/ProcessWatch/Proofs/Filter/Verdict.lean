/-
Module: ProcessWatch.Proofs.Filter.Verdict
Purpose: What the requirements of a filter say of a record, and that a filter lets pass just the records
  of which they are true.
Trusted boundary: none
Main exports: Record.LivedFor, Filter.Describes, Filter.accepts_iff_describes,
  Filter.accepts_of_running, Filter.accepts_of_accepts_ended

A filter compares whole seconds.  What it requires is stated here in nanoseconds and without rounding.
-/
import ProcessWatch.Proofs.Roster.Lifetime

namespace ProcessWatch

/-- The process has ended, and lived for so many nanoseconds. -/
def Record.LivedFor (record : Record) (lifetime : Nat) : Prop :=
  record.status = .exited ∧ record.endedAt = some (record.startedAt + lifetime)

namespace Filter

/-- Every requirement of the filter is true of a record whose process was given that name at its
start. -/
structure Describes (filter : Filter) (record : Record) (given : String) : Prop where
  pid : ∀ pid, filter.pid = some pid → record.pid = pid
  parent : ∀ parent, filter.parent = some parent → record.parent = parent
  command : ∀ name, filter.command = some name → CommandName.ofString given = name
  least : ∀ seconds lifetime, filter.minLifetime = some seconds → record.LivedFor lifetime →
    seconds * nanosPerSecond ≤ lifetime
  greatest : ∀ seconds lifetime, filter.maxLifetime = some seconds → record.LivedFor lifetime →
    lifetime < (seconds + 1) * nanosPerSecond

end Filter

namespace Record

variable {record : Record}

theorem LivedFor.unique {lifetime other : Nat} (lived : record.LivedFor lifetime)
    (livedToo : record.LivedFor other) : lifetime = other := by
  have same := lived.2.symm.trans livedToo.2
  exact Nat.add_left_cancel (Option.some.inj same)

/-- A sound record has whole seconds to show exactly if its process lived for some time. -/
theorem Sound.lifetime_cases (sound : record.Sound) :
    (record.lifetimeSeconds? = none ∧ ∀ lifetime, ¬ record.LivedFor lifetime) ∨
      ∃ lifetime, record.LivedFor lifetime ∧
        record.lifetimeSeconds? = some (lifetime / nanosPerSecond) := by
  cases status : record.status with
  | running =>
      left
      obtain ⟨noEnd, -, -⟩ := sound.running status
      refine ⟨by simp only [lifetimeSeconds?, noEnd, Option.map_none], ?_⟩
      intro lifetime lived
      exact absurd (status.symm.trans lived.1) (by decide)
  | exited =>
      right
      obtain ⟨time, ended, notBefore⟩ := sound.exited status
      refine ⟨time - record.startedAt, ⟨status, ?_⟩, ?_⟩
      · rw [Nat.add_sub_cancel' notBefore, ended]
      · simp only [lifetimeSeconds?, ended, Option.map_some]

end Record

namespace Filter

variable {filter : Filter} {record : Record} {given : String}

/-- Whole seconds within the bounds are nanoseconds within them. -/
theorem acceptsLifetime_div_iff (lifetime : Nat) :
    filter.acceptsLifetime (lifetime / nanosPerSecond) = true ↔
      (∀ seconds, filter.minLifetime = some seconds → seconds * nanosPerSecond ≤ lifetime) ∧
        ∀ seconds, filter.maxLifetime = some seconds →
          lifetime < (seconds + 1) * nanosPerSecond := by
  have positive : 0 < nanosPerSecond := by decide
  have least : ∀ seconds, seconds ≤ lifetime / nanosPerSecond ↔
      seconds * nanosPerSecond ≤ lifetime :=
    fun seconds => Nat.le_div_iff_mul_le positive
  have greatest : ∀ seconds, lifetime / nanosPerSecond ≤ seconds ↔
      lifetime < (seconds + 1) * nanosPerSecond :=
    fun seconds => Nat.lt_succ_iff.symm.trans (Nat.div_lt_iff_lt_mul positive)
  simp only [acceptsLifetime, meets, Bool.and_eq_true, Option.all_eq_true, decide_eq_true_eq, least,
    greatest]

theorem acceptsSubject_iff_describes (sound : record.Sound)
    (named : record.name = CommandName.ofString given) :
    filter.acceptsSubject record.subject = true ↔ filter.Describes record given := by
  have command : ∀ name : CommandName,
      name.text = record.name.text ↔ CommandName.ofString given = name := by
    intro name
    rw [← named]
    exact ⟨fun same => (CommandName.ext same).symm, fun same => congrArg CommandName.text same.symm⟩
  have bounds : record.lifetimeSeconds?.all filter.acceptsLifetime = true ↔
      ∀ lifetime, record.LivedFor lifetime →
        filter.acceptsLifetime (lifetime / nanosPerSecond) = true := by
    rcases sound.lifetime_cases with ⟨noSeconds, noLifetime⟩ | ⟨lifetime, lived, seconds⟩
    · simp only [noSeconds, Option.all_none, true_iff]
      exact fun lifetime lived => absurd lived (noLifetime lifetime)
    · simp only [seconds, Option.all_some]
      exact ⟨fun within other livedToo => lived.unique livedToo ▸ within,
        fun all => all lifetime lived⟩
  simp only [acceptsSubject, Record.subject, meets, Bool.and_eq_true, Option.all_eq_true,
    decide_eq_true_eq, command, bounds, acceptsLifetime_div_iff]
  constructor
  · rintro ⟨⟨⟨pid, parent⟩, name⟩, lifetimes⟩
    constructor
    case pid => exact fun number required => (of_decide_eq_true (pid number required)).symm
    case parent => exact fun number required => (of_decide_eq_true (parent number required)).symm
    case command => exact name
    case least =>
      exact fun seconds lifetime required lived => (lifetimes lifetime lived).1 seconds required
    case greatest =>
      exact fun seconds lifetime required lived => (lifetimes lifetime lived).2 seconds required
  · intro describes
    refine ⟨⟨⟨?_, ?_⟩, describes.command⟩, fun lifetime lived => ⟨?_, ?_⟩⟩
    · exact fun number required => decide_eq_true (describes.pid number required).symm
    · exact fun number required => decide_eq_true (describes.parent number required).symm
    · exact fun seconds required => describes.least seconds lifetime required lived
    · exact fun seconds required => describes.greatest seconds lifetime required lived

/-- A filter lets a record pass if it is not enabled or its requirements are true of the record. -/
theorem accepts_iff_describes (sound : record.Sound)
    (named : record.name = CommandName.ofString given) :
    filter.accepts record.subject = true ↔
      filter.enabled = false ∨ filter.Describes record given := by
  simp only [accepts, Bool.or_eq_true, Bool.not_eq_true', acceptsSubject_iff_describes sound named]

/-- The bounds on the lifetime do not matter for a process that runs. -/
theorem accepts_of_running (running : record.endedAt = none) (least greatest : Option Nat) :
    { filter with minLifetime := least, maxLifetime := greatest }.accepts record.subject =
      filter.accepts record.subject := by
  simp only [accepts, acceptsSubject, Record.subject, Record.lifetimeSeconds?, running,
    Option.map_none, Option.all_none]

/-- Its end can only take a record out of those that pass. -/
theorem accepts_of_accepts_ended (running : record.endedAt = none) {time : Timestamp}
    {code : ExitCode} {usage : Usage}
    (accepted : filter.accepts (record.ended time code usage).subject = true) :
    filter.accepts record.subject = true := by
  simp only [accepts, acceptsSubject, Record.subject, Record.ended, Record.lifetimeSeconds?, running,
    Option.map_none, Option.all_none, Bool.or_eq_true, Bool.and_eq_true] at accepted ⊢
  exact accepted.imp_right fun all => ⟨all.1, trivial⟩

end Filter

end ProcessWatch
