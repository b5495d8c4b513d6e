/-
Module: ProcessWatch.Proofs.Roster.Lifetime
Purpose: What becomes of one record from the moment it is added: it ends at most once, and nothing else
  about it ever changes.
Trusted boundary: calls meet enough memory, for which Proofs.Roster.Memory gives a condition
Main exports: Record.Sound, Record.Becomes, Roster.Arises, Roster.arises_of_mem_undergo,
  Roster.Pictures.becomes_after, Monitor.records_live_once
-/
import ProcessWatch.Proofs.Roster.Held

namespace ProcessWatch

/-- Any reading of one word can follow any other, so that a clock may also go back. -/
theorem Clock.exists_move_now (clock : Clock) {time : Timestamp} (small : time < Word.size) :
    ∃ move, (clock.move move).now = time := by
  refine ⟨.advance ⟨time + (Word.size - clock.now % Word.size)⟩, ?_⟩
  have total : ∀ now size : Nat, now % size < size →
      now + (time + (size - now % size)) = time + size * (now / size + 1) := by
    intro now size below
    have parted := Nat.mod_add_div now size
    rw [Nat.mul_succ]
    omega
  calc (clock.now + (time + (Word.size - clock.now % Word.size))) % Word.size
    _ = (time + Word.size * (clock.now / Word.size + 1)) % Word.size := by
        rw [total clock.now Word.size (Nat.mod_lt _ (by decide))]
    _ = time % Word.size := Nat.add_mul_mod_self_left _ _ _
    _ = time := Nat.mod_eq_of_lt small

namespace Record

/-! ## One record -/

/-- A running record has no end yet, and one that is no longer running ended not before it started. -/
structure Sound (record : Record) : Prop where
  running : record.status = .running →
    record.endedAt = none ∧ record.exitCode = 0 ∧ record.usage = {}
  exited : record.status = .exited → ∃ time, record.endedAt = some time ∧ record.startedAt ≤ time

/-- What may become of a record: it stays as it is, or it runs and then has ended. -/
inductive Becomes (old : Record) : Record → Prop
  | same : Becomes old old
  | ended (running : old.status = .running) (time : Timestamp) (code : ExitCode) (usage : Usage) :
      Becomes old (old.ended time code usage)

theorem sound_started (id : RecordId) (pid parent : Pid) (name : CommandName) (time : Timestamp) :
    (started id pid parent name time).Sound where
  running _ := ⟨rfl, rfl, rfl⟩
  exited := by
    intro exited
    cases exited

/-- A record ends soundly whatever the clock reads. -/
theorem sound_ended (record : Record) (time : Timestamp) (code : ExitCode) (usage : Usage) :
    (record.ended time code usage).Sound where
  running := by
    intro running
    cases running
  exited _ := ⟨max time record.startedAt, rfl, Nat.le_max_right _ _⟩

namespace Sound

variable {record : Record}

theorem status_eq_exited_iff (sound : record.Sound) :
    record.status = .exited ↔ record.endedAt.isSome = true := by
  cases status : record.status with
  | running => simp [(sound.running status).1]
  | exited =>
      obtain ⟨time, ended, -⟩ := sound.exited status
      simp [ended]

theorem startedAt_le (sound : record.Sound) {time : Timestamp} (ended : record.endedAt = some time) :
    record.startedAt ≤ time := by
  have exited : record.status = .exited := sound.status_eq_exited_iff.mpr (by simp [ended])
  obtain ⟨other, same, later⟩ := sound.exited exited
  rw [ended] at same
  exact Option.some.inj same ▸ later

end Sound

/-- A record that has ended does not end again. -/
theorem Becomes.trans {old between new : Record} (first : old.Becomes between)
    (second : between.Becomes new) : old.Becomes new := by
  cases first with
  | same => exact second
  | ended running time code usage =>
      cases second with
      | same => exact .ended running time code usage
      | ended runsAgain _ _ _ => cases runsAgain

end Record

namespace Roster

/-! ## One change -/

/-- Where a record that is held after a change comes from. -/
inductive Arises (roster : Roster) : Monitor.Change → Record → Prop
  | kept {change : Monitor.Change} {record : Record} (held : record ∈ roster.records) :
      Arises roster change record
  | started (pid parent : Pid) (name : CommandName) :
      Arises roster (.start pid parent name)
        (Record.started roster.nextId pid parent name roster.clock.now)
  | ended {pid : Pid} {record : Record} (last : Records.lastRunning? roster.records pid = some record)
      (code : ExitCode) (usage : Usage) :
      Arises roster (.exit pid code usage) (record.ended roster.clock.now code usage)

variable {roster : Roster} {change : Monitor.Change} {old new record : Record}

theorem arises_of_mem_undergo (member : record ∈ (roster.undergo change).records) :
    roster.Arises change record := by
  cases change with
  | start pid parent name =>
      cases recording : roster.monitoring with
      | false =>
          rw [undergo, start_of_paused parent name recording] at member
          exact .kept member
      | true =>
          rw [undergo, start_of_recording parent name recording] at member
          rcases Records.mem_of_mem_push member with old | rfl
          · exact .kept old
          · exact .started pid parent name
  | exit pid code usage =>
      rw [undergo] at member
      rcases roster.exit_split pid code usage with
        ⟨-, same⟩ | ⟨before, ending, after, split, last, -, records⟩
      · exact .kept (same ▸ member)
      · simp only [records, List.mem_append, List.mem_cons] at member
        rcases member with early | rfl | late
        · exact .kept (by simp [split, early])
        · exact .ended last code usage
        · exact .kept (by simp [split, late])
  | clear => cases member
  | _ => exact .kept member

theorem Arises.sound (arises : roster.Arises change record)
    (sound : ∀ record ∈ roster.records, record.Sound) : record.Sound := by
  cases arises with
  | kept held => exact sound record held
  | started pid parent name => exact Record.sound_started _ _ _ _ _
  | ended last code usage => exact Record.sound_ended _ _ _ _

/-- A record with a new number is one that has just started. -/
theorem Arises.started_of_not_mem (arises : roster.Arises change record)
    (absent : record.id ∉ roster.records.map Record.id) :
    ∃ pid parent name, change = .start pid parent name ∧
      record = Record.started roster.nextId pid parent name roster.clock.now := by
  cases arises with
  | kept held => exact absurd (List.mem_map_of_mem held) absent
  | started pid parent name => exact ⟨pid, parent, name, rfl, rfl⟩
  | ended last code usage =>
      have held := (Records.runsAs_of_lastRunning? last).1
      exact absurd (List.mem_map_of_mem held) absent

/-- No two records that are held have one number. -/
theorem Numbered.eq_of_id_eq (numbered : roster.Numbered) (held : old ∈ roster.records)
    (member : new ∈ roster.records) (sameId : new.id = old.id) : new = old :=
  List.inj_on_of_nodup_map numbered.nodup member held sameId

/-- A record with a number that is held already is the old one, unless an exit has ended it. -/
theorem Arises.same_or_ended (arises : roster.Arises change new) (numbered : roster.Numbered)
    (held : old ∈ roster.records) (sameId : new.id = old.id) :
    new = old ∨ ∃ pid code usage, change = .exit pid code usage ∧ old.runsAs pid = true ∧
      new = old.ended roster.clock.now code usage := by
  cases arises with
  | kept member => exact Or.inl (numbered.eq_of_id_eq held member sameId)
  | started pid parent name => exact absurd sameId.symm (Nat.ne_of_lt (numbered.below old held))
  | ended last code usage =>
      obtain ⟨member, runs⟩ := Records.runsAs_of_lastRunning? last
      obtain rfl := numbered.eq_of_id_eq held member sameId
      exact Or.inr ⟨_, code, usage, rfl, runs, rfl⟩

theorem Arises.becomes (arises : roster.Arises change new) (numbered : roster.Numbered)
    (held : old ∈ roster.records) (sameId : new.id = old.id) : old.Becomes new := by
  rcases arises.same_or_ended numbered held sameId with rfl | ⟨pid, code, usage, -, runs, rfl⟩
  · exact .same
  · exact .ended (Record.status_of_runsAs runs) _ code usage

/-- What an exit reports to have ended is sound, too. -/
theorem sound_of_retired (retired : roster.happening? change = some (.retired record)) :
    record.Sound := by
  cases change with
  | start pid parent name =>
      obtain ⟨id, -, same⟩ := Option.map_eq_some_iff.mp retired
      cases same
  | exit pid code usage =>
      obtain ⟨ended, ending, same⟩ := Option.map_eq_some_iff.mp retired
      cases same
      rw [ending?] at ending
      split at ending
      · obtain ⟨running, -, rfl⟩ := Option.map_eq_some_iff.mp ending
        exact Record.sound_ended _ _ _ _
      · cases ending
  | _ => cases retired

/-! ## Several changes -/

theorem sound_after (sound : ∀ record ∈ roster.records, record.Sound) (calls : List Monitor.Call) :
    ∀ record ∈ (roster.after calls).records, record.Sound := by
  induction calls generalizing roster with
  | nil => exact sound
  | cons call calls inductionHypothesis =>
      rw [after_cons]
      apply inductionHypothesis
      intro record member
      exact (arises_of_mem_undergo member).sound sound

namespace Pictures

variable {monitor : Monitor}

theorem held (pictures : roster.Pictures monitor) : monitor.held = roster.records :=
  pictures.models.records

/-- As long as a record is held, it goes through one life: were it gone in between, its number would
not come back. -/
theorem becomes_after (pictures : roster.Pictures monitor) {calls : List Monitor.Call}
    (before : old ∈ roster.records) (after : new ∈ (roster.after calls).records)
    (sameId : new.id = old.id) : old.Becomes new := by
  induction calls generalizing roster monitor old with
  | nil =>
      obtain rfl := pictures.models.numbered.eq_of_id_eq before after sameId
      exact .same
  | cons call calls inductionHypothesis =>
      have numbered := pictures.models.numbered
      rw [after_cons] at after
      by_cases stays : old.id ∈ (roster.undergo call.change).records.map Record.id
      case pos =>
        obtain ⟨between, member, same⟩ := List.mem_map.mp stays
        have first : old.Becomes between :=
          (arises_of_mem_undergo member).becomes numbered before same
        have second : between.Becomes new :=
          inductionHypothesis (pictures.undergo call.change) member after (sameId.trans same.symm)
        exact first.trans second
      case neg =>
        have below : old.id < (roster.undergo call.change).nextId :=
          Nat.lt_of_lt_of_le (numbered.below old before) (roster.nextId_le_undergo call.change)
        exact absurd (sameId ▸ List.mem_map_of_mem after) (not_mem_ids_after below stays calls)

end Pictures

end Roster

/-! ## A monitor from its start -/

namespace Monitor

/-- A record comes as one that has just started.  As long as it is held it changes at most once, by an
exit of its process while it runs, and then it has an end that is not before its start, whatever the
clock reads.  Once it is gone its number does not come back.  What is shown of records has an end
exactly if it has exited, and the end is not before the start.  All this is so although the clock may
come to any reading between two calls. -/
theorem records_live_once (options : Store.Options) (time : Timestamp) (early late : List Call) :
    let monitor := (create options time).1.after early
    (∀ call, ∀ new ∈ (monitor.perform call).monitor.held,
        new.id ∉ monitor.held.map Record.id → ∃ pid parent name,
          call.change = .start pid parent name ∧
            new = Record.started new.id pid parent name monitor.clock.now) ∧
      (∀ call, ∀ old ∈ monitor.held, ∀ new ∈ (monitor.perform call).monitor.held,
        new.id = old.id → new = old ∨ ∃ pid code usage,
          call.change = .exit pid code usage ∧ old.runsAs pid = true ∧
            new = old.ended monitor.clock.now code usage) ∧
      (∀ old ∈ monitor.held, ∀ new ∈ (monitor.after late).held,
        new.id = old.id → old.Becomes new) ∧
      (∀ old ∈ monitor.held, old.id ∉ (monitor.after late).held.map Record.id →
        ∀ more, old.id ∉ (monitor.after (late ++ more)).held.map Record.id) ∧
      (∀ record ∈ monitor.held, record.Sound) ∧
      (∀ call record, monitor.happening? call = some (.retired record) → record.Sound) ∧
      (∀ question, ∀ record ∈ (monitor.perform question).answer.records,
        (record.status = .exited ↔ record.endedAt.isSome = true) ∧
          ∀ ended, record.endedAt = some ended → record.startedAt ≤ ended) ∧
      ∀ reading < Word.size, ∃ move,
        (monitor.perform (.moveClock move)).monitor.clock.now = reading := by
  intro monitor
  let roster := (Roster.create options time).after early
  have pictures : roster.Pictures monitor := (Roster.Pictures.create options time).after early
  have numbered : roster.Numbered := pictures.models.numbered
  have held : monitor.held = roster.records := pictures.held
  have now : monitor.clock.now = roster.clock.now := congrArg Clock.now pictures.clock.symm
  have next : ∀ call : Call,
      (monitor.perform call).monitor.held = (roster.undergo call.change).records := by
    intro call
    rw [perform_monitor]
    exact (pictures.undergo call.change).held
  have later : ∀ calls, (monitor.after calls).held = (roster.after calls).records :=
    fun calls => (pictures.after calls).held
  have sound : ∀ record ∈ roster.records, record.Sound := by
    apply Roster.sound_after
    intro record member
    cases member
  refine ⟨?_, ?_, ?_, ?_, ?_, ?_, ?_, fun _ small => monitor.clock.exists_move_now small⟩
  · intro call new member absent
    rw [next] at member
    rw [held] at absent
    obtain ⟨pid, parent, name, change, rfl⟩ :=
      (Roster.arises_of_mem_undergo member).started_of_not_mem absent
    exact ⟨pid, parent, name, change, congrArg _ now.symm⟩
  · intro call old before new member sameId
    rw [next] at member
    rw [held] at before
    rw [now]
    exact (Roster.arises_of_mem_undergo member).same_or_ended numbered before sameId
  · intro old before new member sameId
    rw [later] at member
    rw [held] at before
    exact pictures.becomes_after before member sameId
  · intro old before gone more
    rw [later] at gone
    rw [held] at before
    rw [after_append, ((pictures.after late).after more).held]
    have below : old.id < (roster.after late).nextId :=
      Nat.lt_of_lt_of_le (numbered.below old before) (roster.nextId_le_after late)
    exact Roster.not_mem_ids_after below gone more
  · rw [held]
    exact sound
  · intro call record retired
    rw [pictures.happening?] at retired
    exact Roster.sound_of_retired retired
  · intro question record shown
    have member := held_of_mem_answer pictures.models.coherent question shown
    rw [held] at member
    exact ⟨(sound record member).status_eq_exited_iff,
      fun ended => (sound record member).startedAt_le⟩

/-- The clock goes back to 3 before the exit, and the record that started at 5 ends at 5. -/
theorem records_live_once_of_clock_back :
    let early : List Call := [.start 7 1 "sh", .moveClock (.advance ⟨Word.size - 2⟩)]
    let monitor := (create {} 5).1.after early
    let old := Record.started 1 7 1 (CommandName.ofString "sh") 5
    let new := old.ended 3 9 {}
    monitor.clock.now = 3 ∧ monitor.held = [old] ∧ (monitor.after [.exit 7 9 {}]).held = [new] ∧
      new.endedAt = some 5 ∧ old.Becomes new := by
  intro early monitor old new
  have before : monitor.held = [old] := rfl
  have after : (monitor.after [.exit 7 9 {}]).held = [new] := rfl
  have oldHeld : old ∈ monitor.held := before ▸ List.mem_singleton_self old
  have newHeld : new ∈ (monitor.after [.exit 7 9 {}]).held := after ▸ List.mem_singleton_self new
  exact ⟨rfl, before, after, rfl,
    (records_live_once {} 5 early [.exit 7 9 {}]).2.2.1 old oldHeld new newHeld rfl⟩

end Monitor

end ProcessWatch
