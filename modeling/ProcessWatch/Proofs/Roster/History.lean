/-
Module: ProcessWatch.Proofs.Roster.History
Purpose: What a monitor makes happen, call by call, and the account that its counters keep of it.
Trusted boundary: calls meet enough memory, for which Proofs.Roster.Memory gives a condition
Main exports: Monitor.happening?, Monitor.history, Roster.Numbered, Roster.Accounts,
  Roster.Accounts.undergo, Roster.Accounts.after, Roster.stats_undergo
-/
import ProcessWatch.Proofs.History
import ProcessWatch.Proofs.Roster.Simulation

namespace ProcessWatch

namespace Monitor

/-- What a call makes happen. -/
def happening? (monitor : Monitor) (call : Call) : Option Happening :=
  match call.change with
  | .start pid parent name =>
      (monitor.store.commitStart monitor.clock.now pid parent name).1.id?.map Happening.started
  | .exit pid code usage =>
      match (monitor.store.commitExit monitor.clock.now pid code usage).1 with
      | .retired record => some (.retired record)
      | _ => none
  | .resetStatistics => some .reset
  | _ => none

/-- A start makes something happen exactly if it returns a number. -/
theorem happening?_start (monitor : Monitor) (pid parent : Pid) (name : String) :
    monitor.happening? (.start pid parent name) =
      (monitor.store.start monitor.clock.now pid parent name).value.map Happening.started := by
  rw [start_value]
  rfl

/-- A record ends when the clock says so, but not before it started, and has used what is reported of
it. -/
theorem ended_of_commitExit {store : Store} {now : Timestamp} {pid : Pid} {code : ExitCode}
    {usage : Usage} {record : Record}
    (retired : (store.commitExit now pid code usage).1 = .retired record) :
    record.endedAt = some (max now record.startedAt) ∧ record.usage = usage := by
  rw [Store.commitExit] at retired
  split at retired
  case isFalse => cases retired
  case isTrue =>
    cases detached : store.index.detachNewest pid with
    | none =>
        rw [detached] at retired
        cases retired
    | some found =>
        cases ended : found.1.record.exit? now code usage with
        | none =>
            simp only [detached, ended] at retired
            cases retired
        | some after =>
            simp only [detached, ended] at retired
            cases retired
            rw [Record.exit?] at ended
            split at ended
            · obtain rfl := Option.some.inj ended
              exact ⟨rfl, rfl⟩
            · cases ended

theorem commitExit_of_happening? {monitor : Monitor} {call : Call} {pid : Pid} {code : ExitCode}
    {usage : Usage} {record : Record} (change : call.change = .exit pid code usage)
    (retired : monitor.happening? call = some (.retired record)) :
    (monitor.store.commitExit monitor.clock.now pid code usage).1 = .retired record := by
  simp only [happening?, change] at retired
  split at retired
  · cases retired
    assumption
  · cases retired

/-- What some calls make happen. -/
def history (monitor : Monitor) : List Call → History
  | [] => []
  | call :: calls =>
      (monitor.happening? call).toList ++ (monitor.perform call).monitor.history calls

end Monitor

namespace Roster

/-- What a change makes happen. -/
def happening? (roster : Roster) : Monitor.Change → Option Happening
  | .start pid parent name => (roster.start pid parent name).1.map Happening.started
  | .exit pid code usage => (roster.ending? pid code usage).map Happening.retired
  | .resetStatistics => some .reset
  | _ => none

theorem Pictures.happening? {roster : Roster} {monitor : Monitor}
    (pictures : roster.Pictures monitor) (call : Monitor.Call) :
    monitor.happening? call = roster.happening? call.change := by
  have now := congrArg Clock.now pictures.clock
  rw [Monitor.happening?]
  cases call.change with
  | start pid parent name =>
      have same := pictures.models.commitStart_id? pid parent name
      rw [now] at same
      exact congrArg (Option.map Happening.started) same
  | exit pid code usage =>
      have same := (pictures.models.commitExit pid code usage).1
      rw [now] at same
      simp only [same, Models.exitResult, Roster.happening?]
      cases recording : roster.monitoring with
      | false => simp [ending?, recording]
      | true => cases roster.ending? pid code usage <;> rfl
  | _ => rfl

/-- What starts gets the next number. -/
theorem eq_nextId_of_started {roster : Roster} {change : Monitor.Change} {id : RecordId}
    (started : roster.happening? change = some (.started id)) : id = roster.nextId := by
  cases change with
  | start pid parent name =>
      obtain ⟨number, given, same⟩ := Option.map_eq_some_iff.mp started
      cases recording : roster.monitoring with
      | false =>
          rw [start_of_paused parent name recording] at given
          cases given
      | true =>
          rw [start_of_recording parent name recording] at given
          cases given
          cases same
          rfl
  | exit pid code usage =>
      obtain ⟨record, -, same⟩ := Option.map_eq_some_iff.mp started
      cases same
  | _ => cases started

/-- What ends was a running record of the roster. -/
theorem exists_running {roster : Roster} {change : Monitor.Change} {ended : Record}
    (retired : roster.happening? change = some (.retired ended)) :
    ∃ record ∈ roster.records, record.isRunning = true ∧ record.id = ended.id := by
  cases change with
  | start pid parent name =>
      obtain ⟨id, -, same⟩ := Option.map_eq_some_iff.mp retired
      cases same
  | exit pid code usage =>
      rw [happening?] at retired
      rcases roster.exit_cases pid code usage with
        ⟨nothing, -⟩ | ⟨record, -, last, ending⟩
      · rw [nothing] at retired
        cases retired
      · rw [ending] at retired
        cases retired
        obtain ⟨member, runs⟩ := Records.runsAs_of_lastRunning? last
        exact ⟨record, member, (Record.runsAs_iff.mp runs).2, rfl⟩
  | _ => cases retired

/-! ## Numbers -/

/-- The records of the roster have ascending numbers, and the next number is higher still. -/
structure Numbered (roster : Roster) : Prop where
  ascending : (roster.records.map Record.id).Pairwise (· < ·)
  below : ∀ record ∈ roster.records, record.id < roster.nextId
  firstCounted_le : roster.firstCounted ≤ roster.nextId

theorem Models.numbered {roster : Roster} {store : Store} (models : roster.Models store) :
    roster.Numbered := by
  have ids : roster.records.map Record.id = store.index.recency := by
    rw [← models.records]
    exact models.coherent.map_id_records
  constructor
  case ascending =>
    rw [ids]
    exact models.coherent.ascending
  case below =>
    intro record member
    have listed : record.id ∈ store.index.recency := ids ▸ List.mem_map_of_mem member
    rw [← models.nextId]
    exact ((models.coherent.mem_recency_iff _).mp listed).2
  case firstCounted_le => exact models.firstCounted_le

/-- No two records share a number. -/
theorem Numbered.ne_of_split {roster : Roster} (numbered : roster.Numbered) {record : Record}
    {before after : List Record} (split : roster.records = before ++ record :: after) :
    ∀ other ∈ before ++ after, other.id ≠ record.id := by
  have ascending := numbered.ascending
  rw [split, List.map_append, List.map_cons, List.pairwise_append, List.pairwise_cons] at ascending
  intro other member
  rcases List.mem_append.mp member with early | late
  · exact Nat.ne_of_lt (ascending.2.2 _ (List.mem_map_of_mem early) _ List.mem_cons_self)
  · exact Nat.ne_of_gt (ascending.2.1.1 _ (List.mem_map_of_mem late))

/-! ## The account of a history -/

/-- The roster agrees with what happened since its counters were last zero. -/
structure Accounts (roster : Roster) (since : History) : Prop where
  recounts : roster.stats.Recounts since
  started_iff : ∀ id, id ∈ since.startedIds ↔ roster.firstCounted ≤ id ∧ id < roster.nextId
  ended_lt : ∀ record ∈ since.exits, record.id < roster.nextId
  ended_once : (since.exits.map Record.id).Nodup
  unfinished : ∀ record ∈ roster.records, record.isRunning = true →
    record.id ∉ since.exits.map Record.id

namespace Accounts

variable {roster : Roster} {since : History}

/-- Counters that are zero are the account of an empty history. -/
theorem of_reset (stats : roster.stats = {}) (reset : roster.firstCounted = roster.nextId) :
    roster.Accounts [] where
  recounts := stats ▸ Statistics.Recounts.zero
  started_iff := by
    intro id
    constructor
    · intro member
      cases member
    · intro bounds
      exact absurd (Nat.lt_of_le_of_lt bounds.1 bounds.2) (reset ▸ Nat.lt_irrefl _)
  ended_lt := by
    intro record member
    cases member
  ended_once := List.nodup_nil
  unfinished := by
    intro record _ _ member
    cases member

/-- An exit that counts finds a process counted as running. -/
theorem current_pos (accounts : roster.Accounts since) {record : Record}
    (member : record ∈ roster.records) (running : record.isRunning = true)
    (added : record.id ∈ since.startedIds) : 0 < roster.stats.current := by
  have fewer := History.length_countedExits_lt accounts.ended_once added
    (accounts.unfinished record member running)
  rw [accounts.recounts.current_eq, History.running]
  exact Nat.sub_pos_of_lt fewer

/-- A start goes into the account with a number that is new. -/
theorem start (accounts : roster.Accounts since) (numbered : roster.Numbered)
    (recording : roster.monitoring = true) (pid parent : Pid) (name : CommandName) :
    (roster.start pid parent name).2.Accounts (since ++ [.started roster.nextId]) := by
  have fresh : ∀ record ∈ since.exits, record.id ≠ roster.nextId :=
    fun record ended => Nat.ne_of_lt (accounts.ended_lt record ended)
  rw [start_of_recording parent name recording]
  constructor
  case recounts => exact accounts.recounts.started fresh
  case started_iff =>
    intro id
    rw [History.startedIds_append_started, List.mem_append, List.mem_singleton,
      accounts.started_iff]
    constructor
    · intro member
      rcases member with ⟨above, below⟩ | rfl
      · exact ⟨above, Nat.lt_succ_of_lt below⟩
      · exact ⟨numbered.firstCounted_le, Nat.lt_succ_self _⟩
    · intro bounds
      rcases Nat.lt_succ_iff_lt_or_eq.mp bounds.2 with below | same
      · exact Or.inl ⟨bounds.1, below⟩
      · exact Or.inr same
  case ended_lt =>
    rw [History.exits_append_started]
    intro record ended
    exact Nat.lt_succ_of_lt (accounts.ended_lt record ended)
  case ended_once =>
    rw [History.exits_append_started]
    exact accounts.ended_once
  case unfinished =>
    rw [History.exits_append_started]
    intro record member running
    rcases Records.mem_of_mem_push member with old | rfl
    · exact accounts.unfinished record old running
    · intro ended
      obtain ⟨other, inside, same⟩ := List.mem_map.mp ended
      exact fresh other inside same

/-- The exit of a record from before does not count. -/
theorem countExit_of_old (accounts : roster.Accounts since) {record : Record} {usage : Usage}
    (below : record.id < roster.nextId) (old : record.id ∉ since.startedIds) :
    roster.countExit record usage = roster.stats := by
  rw [Roster.countExit, if_neg]
  intro above
  exact old ((accounts.started_iff record.id).mpr ⟨above, below⟩)

/-- The end of a running record counts exactly if the record was added since the counters were last
zero. -/
theorem countExit (accounts : roster.Accounts since) (numbered : roster.Numbered)
    {record : Record} (member : record ∈ roster.records) (running : record.isRunning = true)
    (code : ExitCode) (usage : Usage) :
    (roster.countExit (record.ended roster.clock.now code usage) usage).Recounts
      (since ++ [.retired (record.ended roster.clock.now code usage)]) := by
  let ended := record.ended roster.clock.now code usage
  by_cases added : ended.id ∈ since.startedIds
  · rw [Roster.countExit, if_pos ((accounts.started_iff ended.id).mp added).1]
    exact accounts.recounts.counted added (accounts.current_pos member running added)
  · have below : ended.id < roster.nextId := numbered.below record member
    rw [accounts.countExit_of_old below added]
    exact accounts.recounts.uncounted added

theorem exit (accounts : roster.Accounts since) (numbered : roster.Numbered)
    (recording : roster.monitoring = true) {pid : Pid} {record : Record}
    (last : Records.lastRunning? roster.records pid = some record)
    (code : ExitCode) (usage : Usage) :
    (roster.exit pid code usage).Accounts
      (since ++ [.retired (record.ended roster.clock.now code usage)]) := by
  obtain ⟨before, after, split, runs, noneAfter⟩ := Records.lastRunning?_eq_some_iff.mp last
  have running := (Record.runsAs_iff.mp runs).2
  have member : record ∈ roster.records := (Records.runsAs_of_lastRunning? last).1
  let ended := record.ended roster.clock.now code usage
  have ended_exits : History.exits (since ++ [.retired ended]) = since.exits ++ [ended] :=
    History.exits_append_retired
  rw [exit_of_tracked code usage recording last]
  constructor
  case recounts => exact accounts.countExit numbered member running code usage
  case started_iff =>
    rw [History.startedIds_append_retired]
    exact accounts.started_iff
  case ended_lt =>
    rw [ended_exits]
    intro other inside
    rcases List.mem_append.mp inside with old | new
    · exact accounts.ended_lt other old
    · rw [List.mem_singleton.mp new]
      exact numbered.below record member
  case ended_once =>
    rw [ended_exits, List.map_append, List.map_singleton]
    rw [← List.concat_eq_append, List.nodup_concat]
    exact ⟨accounts.unfinished record member running, accounts.ended_once⟩
  case unfinished =>
    rw [ended_exits, List.map_append, List.map_singleton]
    have others : ∀ other ∈ before ++ after, other.isRunning = true →
        other.id ∉ since.exits.map Record.id ++ [ended.id] := by
      intro other inside stillRunning already
      rcases List.mem_append.mp already with earlier | now
      · have kept : other ∈ roster.records := by
          rw [split]
          exact List.mem_append.mpr
            ((List.mem_append.mp inside).imp_right (List.mem_cons_of_mem record))
        exact accounts.unfinished other kept stillRunning earlier
      · exact numbered.ne_of_split split other inside (List.mem_singleton.mp now)
    intro other inside stillRunning
    have inside : other ∈ Records.changeLastRunning pid
        (fun record => record.ended roster.clock.now code usage) roster.records := inside
    rw [split, Records.changeLastRunning_split _ runs noneAfter] at inside
    rcases List.mem_append.mp inside with early | late
    · exact others other (List.mem_append_left _ early) stillRunning
    · rcases List.mem_cons.mp late with rfl | later
      · cases stillRunning
      · exact others other (List.mem_append_right _ later) stillRunning

/-! ## Runs -/

theorem undergo (accounts : roster.Accounts since) (numbered : roster.Numbered)
    (change : Monitor.Change) :
    (roster.undergo change).Accounts (since.extend (roster.happening? change)) := by
  cases change with
  | nothing => exact accounts
  | start pid parent name =>
      rw [Roster.undergo, happening?]
      cases recording : roster.monitoring with
      | false =>
          rw [start_of_paused parent name recording]
          exact accounts
      | true =>
          have started := accounts.start numbered recording pid parent name
          rw [start_of_recording parent name recording] at started ⊢
          exact started
  | exit pid code usage =>
      rw [Roster.undergo, happening?]
      rcases roster.exit_cases pid code usage with
        ⟨nothing, same⟩ | ⟨record, recording, last, ending⟩
      · rw [nothing, same]
        exact accounts
      · rw [ending]
        exact accounts.exit numbered recording last code usage
  | moveClock move => exact { accounts with }
  | setMonitoring monitoring => exact { accounts with }
  | clear =>
      exact
        { accounts with
          unfinished := by
            intro record member
            cases member }
  | resetStatistics => exact of_reset rfl rfl
  | askFilter call => exact { accounts with }

/-- A roster that pictures a monitor keeps the account of all that the monitor does. -/
theorem after {monitor : Monitor} {past : History} (accounts : roster.Accounts past.sinceReset)
    (pictures : roster.Pictures monitor) (calls : List Monitor.Call) :
    (roster.after calls).Accounts (History.sinceReset (past ++ monitor.history calls)) := by
  induction calls generalizing roster monitor past with
  | nil =>
      rw [Monitor.history, List.append_nil]
      exact accounts
  | cons call calls inductionHypothesis =>
      have next := accounts.undergo pictures.models.numbered call.change
      rw [← pictures.happening?, ← History.sinceReset_append] at next
      rw [Roster.after_cons, Monitor.history, Monitor.perform_monitor, ← List.append_assoc]
      exact inductionHypothesis next (pictures.undergo call.change)

end Accounts

/-! ## Counters between happenings -/

/-- Only what happens changes the counters. -/
theorem stats_undergo (roster : Roster) (change : Monitor.Change) :
    (roster.undergo change).stats =
      match roster.happening? change with
      | none => roster.stats
      | some (.started _) => roster.stats.onStart
      | some (.retired record) => roster.countExit record record.usage
      | some .reset => {} := by
  cases change with
  | start pid parent name =>
      rw [undergo, happening?]
      cases recording : roster.monitoring with
      | false => rw [start_of_paused parent name recording]; rfl
      | true => rw [start_of_recording parent name recording]; rfl
  | exit pid code usage =>
      rw [undergo, happening?]
      rcases roster.exit_cases pid code usage with
        ⟨nothing, same⟩ | ⟨record, recording, last, ending⟩
      · rw [nothing, same]
        rfl
      · rw [ending, exit_of_tracked code usage recording last]
        rfl
  | _ => rfl

end Roster

end ProcessWatch
