/-
Module: ProcessWatch.Proofs.Console.Export
Purpose: What a console replies when it is told to export is the listing itself, written as data; and
  with it that all that is written as data is read back.
Trusted boundary: calls meet enough memory, for which Proofs.Roster.Memory gives a condition
Main exports: Monitor.Change.Fits, Roster.Measured, Roster.Measured.after, Monitor.fits_list,
  Console.executeLine_export, Console.data_reads_back
-/
import ProcessWatch.Console.Basic
import ProcessWatch.Proofs.Encoding.RoundTrip
import ProcessWatch.Proofs.Roster.Lifetime
import ProcessWatch.Proofs.Roster.Renumbering

namespace ProcessWatch

/-- The clock that is set, and the usage that is reported, fit words. -/
def Monitor.Change.Fits : Monitor.Change → Prop
  | .exit _ _ usage => usage.Fits
  | .moveClock (.set time) => time < Word.size
  | _ => True

theorem Clock.now_move_lt {clock : Clock} (now : clock.now < Word.size) {move : Clock.Move}
    (fits : Monitor.Change.Fits (.moveClock move)) : (clock.move move).now < Word.size := by
  cases move with
  | advance span => exact clock.now_advance_lt span
  | set time => exact Nat.max_lt.mpr ⟨now, fits⟩

namespace Record

theorem measured_started (id : RecordId) (pid parent : Pid) (name : CommandName)
    {time : Timestamp} (fits : time < Word.size) :
    (started id pid parent name time).Measured where
  startedAt := fits
  endedAt := by
    intro ended none
    cases none
  usage := show Usage.Fits {} from ⟨by decide, by decide⟩

theorem Measured.ended {record : Record} (measured : record.Measured) {time : Timestamp}
    (fits : time < Word.size) (code : ExitCode) {usage : Usage} (used : usage.Fits) :
    (record.ended time code usage).Measured where
  startedAt := measured.startedAt
  endedAt := by
    intro ended same
    obtain rfl := Option.some.inj same
    exact Nat.max_lt.mpr ⟨fits, measured.startedAt⟩
  usage := used

end Record

namespace Roster

/-! ## Measures of records -/

/-- The clock and the measures of all records fit words. -/
structure Measured (roster : Roster) : Prop where
  clock : roster.clock.now < Word.size
  records : ∀ record ∈ roster.records, record.Measured

variable {roster : Roster}

theorem Arises.measured {change : Monitor.Change} {record : Record}
    (arises : roster.Arises change record) (fits : change.Fits) (measured : roster.Measured) :
    record.Measured := by
  cases arises with
  | kept held => exact measured.records record held
  | started pid parent name => exact Record.measured_started _ _ _ _ measured.clock
  | ended last code usage =>
      have held := (Records.runsAs_of_lastRunning? last).1
      exact (measured.records _ held).ended measured.clock code fits

namespace Measured

theorem clock_undergo (measured : roster.Measured) {change : Monitor.Change}
    (fits : change.Fits) : (roster.undergo change).clock.now < Word.size := by
  cases change with
  | start pid parent name =>
      rw [undergo, clock_start]
      exact measured.clock
  | exit pid code usage =>
      rw [undergo, clock_exit]
      exact measured.clock
  | moveClock move => exact Clock.now_move_lt measured.clock fits
  | _ => exact measured.clock

theorem undergo (measured : roster.Measured) {change : Monitor.Change} (fits : change.Fits) :
    (roster.undergo change).Measured where
  clock := measured.clock_undergo fits
  records := fun _ member => (arises_of_mem_undergo member).measured fits measured

theorem after (measured : roster.Measured) {calls : List Monitor.Call}
    (fits : ∀ call ∈ calls, call.change.Fits) : (roster.after calls).Measured := by
  induction calls generalizing roster with
  | nil => exact measured
  | cons call calls inductionHypothesis =>
      obtain ⟨first, later⟩ := List.forall_mem_cons.mp fits
      rw [after_cons]
      exact inductionHypothesis (measured.undergo first) later

end Measured

/-! ## Listings -/

/-- A listing of a roster shows at most as many records as the roster ever numbered. -/
theorem fits_listing {store : Store} (models : roster.Models store) (measured : roster.Measured)
    (few : roster.nextId ≤ Word.size) (limit : Nat) :
    (roster.listing limit roster.records).Fits where
  records := by
    intro record member
    have held : record ∈ roster.records := List.mem_of_mem_filter (List.mem_of_mem_take member)
    have id : record.id < Word.size :=
      Nat.lt_of_lt_of_le (models.numbered.below record held) few
    exact { measured.records record held with id := id }
  totalMatched := by
    have size : roster.records.length < roster.nextId := by
      rw [← models.size_eq, ← models.nextId]
      exact models.coherent.size_lt
    exact Nat.lt_of_le_of_lt (List.length_filter_le _ _) (Nat.lt_of_lt_of_le size few)

end Roster

/-- Whatever can happen to a monitor, what it lists fits words. -/
theorem Monitor.fits_list (options : Store.Options) {time : Timestamp} (early : time < Word.size)
    {calls : List Call} (fits : ∀ call ∈ calls, call.change.Fits)
    (few : calls.countP Call.isStart < Word.size) (limit : Nat) :
    (((create options time).1.after calls).store.list limit).Fits := by
  have models := ((Roster.Pictures.create options time).after calls).models
  have bound := Roster.nextId_after_create_le options time few
  have empty : (Roster.create options time).Measured :=
    ⟨early, fun _ member => absurd member List.not_mem_nil⟩
  rw [models.list_eq]
  exact Roster.fits_listing models (empty.after fits) bound limit

namespace Console

/-! ## The reply -/

theorem executeLine_export (console : Console) (now : Timestamp) (store : Store) {line : String}
    {limit : Option Nat} (asked : Command.parse line = .ok (.exportJson limit)) :
    (console.executeLine now store line).reply =
      .ok (.text (store.list (limit.getD console.listLimit)).encode.pretty) := by
  rw [executeLine, dispatchLine, asked]
  rfl

/-- All that is written as data, on one line or on several, is read back as the same value, provided
that its quantities fit the words of the data.  In every state that a monitor can come to, whatever
its filter, the reply to a line that asks for an export is read back as the listing that it asks for. -/
theorem data_reads_back :
    (∀ event : Event, event.Fits → Json.ReadsBack Event.encode Event.decode? event) ∧
      (∀ filter : Filter, filter.Fits → Json.ReadsBack Filter.encode Filter.decode? filter) ∧
      (∀ error : FilterError, Json.ReadsBack FilterError.encode FilterError.decode? error) ∧
      (∀ settings : Settings, settings.Fits →
        Json.ReadsBack Settings.encode Settings.decode? settings) ∧
      (∀ status : ControlStatus, status.Fits →
        Json.ReadsBack ControlStatus.encode ControlStatus.decode? status) ∧
      (∀ stats : Statistics, stats.Fits →
        Json.ReadsBack Statistics.encode Statistics.decode? stats) ∧
      (∀ snapshot : Snapshot, snapshot.Fits →
        Json.ReadsBack Snapshot.encode Snapshot.decode? snapshot) ∧
      (∀ record : Record, record.Fits → Json.ReadsBack Record.encode Record.decode? record) ∧
      (∀ listing : Listing, listing.Fits →
        Json.ReadsBack Listing.encode Listing.decode? listing) ∧
      ∀ (options : Store.Options) (time : Timestamp) (calls : List Monitor.Call),
        time < Word.size → (∀ call ∈ calls, call.change.Fits) →
        calls.countP Monitor.Call.isStart < Word.size →
        ∀ (console : Console) (now : Timestamp) (line : String) (limit : Option Nat),
          Command.parse line = .ok (.exportJson limit) →
          let store := ((Monitor.create options time).1.after calls).store
          ∃ text, (console.executeLine now store line).reply = .ok (.text text) ∧
            (Json.parse? text).bind Listing.decode? =
              some (store.list (limit.getD console.listLimit)) := by
  refine ⟨?_, ?_, ?_, ?_, ?_, ?_, ?_, ?_, ?_, ?_⟩
  · exact fun event fits => Json.readsBack_of_decode? (Event.decode?_encode fits)
  · exact fun filter fits => Json.readsBack_of_decode? (Filter.decode?_encode fits)
  · exact fun error => Json.readsBack_of_decode? (FilterError.decode?_encode error)
  · exact fun settings fits => Json.readsBack_of_decode? (Settings.decode?_encode fits)
  · exact fun status fits => Json.readsBack_of_decode? (ControlStatus.decode?_encode fits)
  · exact fun stats fits => Json.readsBack_of_decode? (Statistics.decode?_encode fits)
  · exact fun snapshot fits => Json.readsBack_of_decode? (Snapshot.decode?_encode fits)
  · exact fun record fits => Json.readsBack_of_decode? (Record.decode?_encode fits)
  · exact fun listing fits => Json.readsBack_of_decode? (Listing.decode?_encode fits)
  · intro options time calls early fits few console now line limit asked store
    have decoded := Listing.decode?_encode
      (Monitor.fits_list options early fits few (limit.getD console.listLimit))
    exact ⟨_, console.executeLine_export now store asked, (Json.readsBack_of_decode? decoded).2⟩

/-- A name with a quote and a character of two bytes, as news and in an export. -/
theorem data_reads_back_of_quote :
    let name := CommandName.ofString "\"é\""
    let calls : List Monitor.Call := [.start 7 1 "\"é\"", .moveClock (.set 9), .exit 7 (-1) ⟨3, 4⟩]
    let store := ((Monitor.create {} 5).1.after calls).store
    Json.ReadsBack Event.encode Event.decode? (.start 7 1 name) ∧
      Command.parse "json 2" = .ok (.exportJson (some 2)) ∧
      ∃ text, ((create 50).executeLine 9 store "json 2").reply = .ok (.text text) ∧
        (Json.parse? text).bind Listing.decode? = some (store.list 2) := by
  intro name calls store
  have asked : Command.parse "json 2" = .ok (.exportJson (some 2)) := rfl
  have fits : ∀ call ∈ calls, call.change.Fits := by
    intro call member
    rcases List.mem_cons.mp member with rfl | member
    · exact trivial
    rcases List.mem_cons.mp member with rfl | member
    · exact show 9 < Word.size by decide
    · rw [List.mem_singleton.mp member]
      exact show Usage.Fits ⟨3, 4⟩ from ⟨by decide, by decide⟩
  obtain ⟨news, -, -, -, -, -, -, -, -, reply⟩ := data_reads_back
  exact ⟨news (.start 7 1 name) trivial, asked,
    reply {} 5 calls (by decide) fits (by decide) (create 50) 9 "json 2" (some 2) asked⟩

end Console

end ProcessWatch
