/-
Module: ProcessWatch.Proofs.Console.Retelling
Purpose: In a session the filter is plain at any time, so that its report tells the whole of it: what the
  report shows, entered line by line in another session, gives the same filter there.
Trusted boundary: calls meet enough memory, for which Proofs.Roster.Memory gives a condition
Main exports: Session.after, Session.plain_after, Report.retelling, Report.Retells,
  Session.filter_retold, Session.filter_report_tells_all
-/
import ProcessWatch.Proofs.Command.Line
import ProcessWatch.Proofs.Console.Piping
import ProcessWatch.Proofs.Console.Transcript
import ProcessWatch.Proofs.Report.Filter

namespace ProcessWatch

/-! ## The filter after a line -/

/-- Recording an event leaves the filter alone. -/
theorem Store.filter_recording (now : Timestamp) (store : Store) (event : Event) :
    (store.recording now event).filter = store.filter := by
  have frame := congrArg Store.filter (recording_withFilter now store event store.filter)
  exact frame

namespace Console

variable {console : Console} {now : Timestamp} {store : Store} {line : String}

/-- News does not change the filter. -/
theorem filter_foldl_direct (now : Timestamp) (events : List Event) (store : Store) :
    (events.foldl (direct now) (store, ())).1.filter = store.filter := by
  induction events generalizing store with
  | nil => rfl
  | cons event events inductionHypothesis =>
      exact (inductionHypothesis _).trans (Store.filter_recording now store event)

theorem filter_settle (now : Timestamp) (execution : Execution) :
    (settle now execution).store.filter = execution.store.filter := by
  obtain ⟨-, settled⟩ := settle_events now execution.events execution
  have folded := filter_foldl_direct now execution.events execution.store
  rw [← settled] at folded
  exact folded

/-- Only a command about the filter changes the filter. -/
theorem filter_act (console : Console) (now : Timestamp) (store : Store) (command : Command) :
    (console.act now store command).store.filter =
      (adjusted store command.filterCall?).filter := by
  cases command with
  | control order => cases order <;> rfl
  | _ => exact congrArg Store.filter (console.act_store now store rfl)

/-- A line changes the filter by the request that it makes, and by nothing else. -/
theorem filter_executeLine :
    (console.executeLine now store line).store.filter =
      (adjusted store (filterCall? line)).filter := by
  rw [executeLine, filter_settle, dispatchLine, filterCall?]
  cases Command.parse line with
  | error error => rfl
  | ok command => exact console.filter_act now store command

/-- Whatever a line asks of the filter, it asks by a text. -/
theorem textual_of_filterCall? {call : Filter.Call} (found : filterCall? line = some call) :
    call.Textual := by
  rw [filterCall?] at found
  cases parsed : Command.parse line with
  | error error => simp [parsed] at found
  | ok command =>
      rw [parsed] at found
      cases command with
      | enableFilter => exact Option.some.inj found ▸ .enable
      | disableFilter => exact Option.some.inj found ▸ .disable
      | resetFilter => exact Option.some.inj found ▸ .reset
      | setFilter field value =>
          obtain ⟨keyword, words, takes, isWord⟩ := Command.takes_of_parse parsed
          cases takes with
          | field => exact Option.some.inj found ▸ .set (isWord value List.mem_cons_self)
      | _ => cases found

end Console

namespace Session

open Console (TimedText)

/-- The session after some lines.  Lines behind one that ends it are carried out here, too. -/
def after (session : Session) (lines : List TimedText) : Session :=
  lines.foldl (fun session line => (session.step line.1 line.2).2) session

variable {session : Session} {now : Timestamp} {text : String}

theorem after_cons (line : TimedText) (lines : List TimedText) :
    session.after (line :: lines) = (session.step line.1 line.2).2.after lines := by
  rw [after, List.foldl_cons, after]

/-- A line changes the filter as its request says, if it makes one. -/
theorem filter_step :
    (session.step now text).2.store.filter =
      (Console.adjusted session.store (Console.filterCall? text)).filter := by
  cases visible : Text.isAllBlank text with
  | true =>
      have noWords := Text.trim_eq_empty_iff.mp (Text.trim_eq_empty_iff_isAllBlank.mpr visible)
      rw [step_of_blank visible, Console.filterCall?, Command.parse_eq_unknown_empty_iff.mpr noWords]
      rfl
  | false =>
      rw [step_of_visible visible]
      exact Console.filter_executeLine

/-- A line leaves a plain filter plain. -/
theorem plain_step (plain : session.store.filter.Plain) (now : Timestamp) (text : String) :
    (session.step now text).2.store.filter.Plain := by
  rw [filter_step]
  cases found : Console.filterCall? text with
  | none => exact plain
  | some call => exact plain.perform (Console.textual_of_filterCall? found)

/-- Whatever is entered, the filter stays plain. -/
theorem plain_after (plain : session.store.filter.Plain) (lines : List TimedText) :
    (session.after lines).store.filter.Plain := by
  induction lines generalizing session with
  | nil => exact plain
  | cons line lines inductionHypothesis =>
      rw [after_cons]
      exact inductionHypothesis (plain_step plain line.1 line.2)

end Session

/-! ## Telling a report back -/

namespace Report

open ProcessWatch.Filter (Part)

/-- The command that gives a filter a part as a report shows it. -/
def retelling (report : String) : Part → Command
  | .switch => if shown report .switch = "YES" then .enableFilter else .disableFilter
  | .field field => .setFilter field (shown report (.field field))

/-- The parts include the switch and each field whose value is not blank.  A zero may be told, too, but
not an empty name. -/
structure Retells (report : String) (parts : List Part) : Prop where
  switch : .switch ∈ parts
  shown : ∀ field, Report.shown report (.field field) ≠ field.blank → .field field ∈ parts
  given : ∀ field, .field field ∈ parts → Report.shown report (.field field) ≠ ""

/-- The switch, and the fields whose values are not blank. -/
def nonblank (report : String) : List Part :=
  Part.all.filter fun part =>
    match part with
    | .switch => true
    | .field field => shown report (.field field) ≠ field.blank

/-- The lines that tell some parts, each with the reading of the clock while it is carried out. -/
def retold (report : String) (parts : List (Timestamp × Part)) : List Console.TimedText :=
  parts.map fun entry => (entry.1, (retelling report entry.2).line)

/-- The parts that are not blank are enough. -/
theorem retells_nonblank {filter : Filter} (plain : filter.Plain) :
    Retells (Report.filter filter) (nonblank (Report.filter filter)) where
  switch := List.mem_filter.mpr ⟨Part.mem_all _, rfl⟩
  shown := fun _ visible => List.mem_filter.mpr ⟨Part.mem_all _, decide_eq_true visible⟩
  given := by
    intro field member empty
    have visible := of_decide_eq_true (List.mem_filter.mp member).2
    rw [shown_filter plain, Part.text] at visible empty
    have blank := Filter.Change.text_eq_blank_of_empty empty
    rw [Filter.field_required] at blank
    exact visible blank

end Report

namespace Filter.Part

/-- The filter with a part as the target has it. -/
def copy (target filter : Filter) : Part → Filter
  | .switch => { filter with enabled := target.enabled }
  | .field kind => filter.apply (target.required kind)

/-- The filters have the part in common. -/
def Agrees (first second : Filter) : Part → Prop
  | .switch => first.enabled = second.enabled
  | .field kind => first.required kind = second.required kind

variable {target filter : Filter} {part other : Part}

/-- A copied part agrees with that of the filter that it was copied to. -/
theorem agrees_copy : part.Agrees (part.copy target filter) target := by
  cases part with
  | switch => rfl
  | field kind => simp [copy, Agrees, required_apply]

/-- To copy a part spoils no other one. -/
theorem Agrees.copy (agrees : other.Agrees filter target) (part : Part) :
    other.Agrees (part.copy target filter) target := by
  by_cases same : other = part
  · exact same ▸ agrees_copy
  · cases part with
    | switch =>
        cases other with
        | switch => rfl
        | field kind => cases kind <;> exact agrees
    | field copied =>
        cases other with
        | switch => exact enabled_apply.trans agrees
        | field kind =>
            have different : kind ≠ copied := fun same' => same (congrArg Part.field same')
            rw [Agrees, Part.copy, required_apply, field_required, if_neg different]
            exact agrees

/-- Filters that agree in every part are the same. -/
theorem eq_of_agrees (agrees : ∀ part : Part, part.Agrees filter target) : filter = target :=
  eq_of_required (agrees .switch) fun field => agrees (.field field)

end Filter.Part

namespace Session

open ProcessWatch.Filter (Part)
open Console (TimedText)

variable {session : Session} {now : Timestamp} {target : Filter} {part : Part}

/-- A line that is read as a request of the filter changes it accordingly. -/
theorem filter_step_of_parse {text : String} {command : Command} {call : Filter.Call}
    (parsed : Command.parse text = .ok command) (asks : command.filterCall? = some call) :
    (session.step now text).2.store.filter = (session.store.filter.perform call).filter := by
  rw [filter_step, Console.filterCall?, parsed]
  simp only [asks]
  rfl

/-- A line that tells a part of a report gives the filter the part. -/
theorem filter_step_retelling (plain : target.Plain)
    (given : ∀ field, part = .field field → (target.required field).text ≠ "") :
    (session.step now (Report.retelling (Report.filter target) part).line).2.store.filter =
      part.copy target session.store.filter := by
  have shown := Report.shown_filter plain part
  cases part with
  | switch =>
      rw [Report.retelling, shown, Part.text, Part.copy]
      cases target.enabled with
      | true =>
          have parsed : Command.parse Command.enableFilter.line = .ok .enableFilter := rfl
          exact filter_step_of_parse parsed rfl
      | false =>
          have parsed : Command.parse Command.disableFilter.line = .ok .disableFilter := rfl
          exact filter_step_of_parse parsed rfl
  | field field =>
      have nonempty := given field rfl
      have isWord := (plain field).isWord_text nonempty
      have performed := (plain field).perform_set_text nonempty session.store.filter
      rw [Filter.field_required] at performed
      rw [Report.retelling, shown, Part.text, Part.copy, ← performed]
      exact filter_step_of_parse (Command.parse_setFilter field isWord) rfl

theorem after_retold_cons (report : String) (now : Timestamp) (part : Part)
    (parts : List (Timestamp × Part)) :
    session.after (Report.retold report ((now, part) :: parts)) =
      (session.step now (Report.retelling report part).line).2.after
        (Report.retold report parts) := by
  rw [Report.retold, List.map_cons, after_cons, Report.retold]

/-- Parts that are told, and those that are right from the start, are right in the end. -/
theorem agrees_after_retold (plain : target.Plain) (parts : List (Timestamp × Part))
    (given : ∀ field, .field field ∈ parts.map Prod.snd → (target.required field).text ≠ "")
    (told : part ∈ parts.map Prod.snd ∨ part.Agrees session.store.filter target) :
    part.Agrees (session.after (Report.retold (Report.filter target) parts)).store.filter target := by
  induction parts generalizing session with
  | nil =>
      rcases told with absent | agrees
      · cases absent
      · exact agrees
  | cons entry parts inductionHypothesis =>
      obtain ⟨now, first⟩ := entry
      rw [after_retold_cons]
      refine inductionHypothesis (fun field later => given field (List.mem_cons_of_mem _ later)) ?_
      rw [filter_step_retelling plain fun field same => given field (same ▸ List.mem_cons_self)]
      rcases told with toldNow | agrees
      · rcases List.mem_cons.mp toldNow with rfl | later
        · exact .inr Part.agrees_copy
        · exact .inl later
      · exact .inr (agrees.copy first)

/-- What a report tells of a plain filter gives a session without requirements the same filter. -/
theorem filter_retold (plain : target.Plain) (unset : session.store.filter = {})
    (parts : List (Timestamp × Part))
    (retells : Report.Retells (Report.filter target) (parts.map Prod.snd)) :
    (session.after (Report.retold (Report.filter target) parts)).store.filter = target := by
  have shown : ∀ field, Report.shown (Report.filter target) (.field field) =
      (target.required field).text :=
    fun field => Report.shown_filter plain (.field field)
  have given : ∀ field, .field field ∈ parts.map Prod.snd → (target.required field).text ≠ "" :=
    fun field told => shown field ▸ retells.given field told
  apply Part.eq_of_agrees
  intro part
  apply agrees_after_retold plain parts given
  cases part with
  | switch => exact .inl retells.switch
  | field field =>
      by_cases blank : (target.required field).text = field.blank
      · right
        have missing := (plain field).eq_clear (by rw [Filter.field_required, blank])
        rw [Part.Agrees, unset, Filter.required_empty, missing, Filter.field_required]
      · left
        exact retells.shown field (shown field ▸ blank)

/-! ## What the report tells -/

/-- The report is printed as it is, and changes nothing. -/
theorem step_showFilter {text : String} (parsed : Command.parse text = .ok .showFilter) :
    session.step now text = (.print (Report.filter session.store.filter), session) := by
  have visible : Text.isAllBlank text = false := by
    by_contra blank
    have noWords := Text.trim_eq_empty_iff.mp
      (Text.trim_eq_empty_iff_isAllBlank.mpr (Bool.not_eq_false _ ▸ blank))
    rw [Command.parse_eq_unknown_empty_iff.mpr noWords] at parsed
    cases parsed
  have executed : session.console.executeLine now session.store text =
      { reply := .ok (.text (Report.filter session.store.filter))
        store := session.store
        log := [.commandStarted .filter] } := by
    rw [Console.executeLine, Console.dispatchLine, parsed]
    rfl
  rw [step_of_visible visible, executed]
  simp only [Next.ofReply, Report.trimEnd_filter]

/-- Two plain filters with the same report are the same: either one is what the report tells. -/
theorem eq_of_report_eq {first second : Filter} (plain : first.Plain) (plainToo : second.Plain)
    (same : Report.filter first = Report.filter second) : first = second := by
  let fresh := create {} 0
  have retells := Report.retells_nonblank plain
  generalize Report.nonblank (Report.filter first) = told at retells
  have timed : (told.map fun part => ((0 : Timestamp), part)).map Prod.snd = told := by
    simp [Function.comp_def]
  rw [← timed] at retells
  have one : (fresh.after (Report.retold (Report.filter first) _)).store.filter = first :=
    filter_retold plain rfl _ retells
  rw [same] at one retells
  exact one.symm.trans (filter_retold plainToo rfl _ retells)

/-- In a session that starts without requirements, no requirement is ever a zero or an empty name.  So
a number that the report shows as zero and a name that it shows as nothing ask nothing of any record,
filters with the same report are the same, and what the report shows, entered in a session without
requirements as lines in any order, gives the same filter there. -/
theorem filter_report_tells_all (start : Session) (unset : start.store.filter = {})
    (lines : List TimedText) :
    let session := start.after lines
    let filter := session.store.filter
    let report := Report.filter filter
    (filter.pid ≠ some 0 ∧ filter.parent ≠ some 0 ∧ filter.minLifetime ≠ some 0 ∧
        filter.maxLifetime ≠ some 0 ∧ ∀ name, filter.command = some name → name.text ≠ "") ∧
      (∀ now text, Command.parse text = .ok .showFilter →
        session.step now text = (.print report, session)) ∧
      (∀ record : Record, filter.accepts record.subject = true ↔
        filter.enabled = false ∨
          ∀ field, (filter.required field).admits record.subject = true) ∧
      (∀ field, Report.shown report (.field field) = field.blank →
        ∀ record : Record, (filter.required field).admits record.subject = true) ∧
      (∀ (other : Session) (otherLines : List TimedText), other.store.filter = {} →
        Report.filter (other.after otherLines).store.filter = report →
        (other.after otherLines).store.filter = filter) ∧
      Report.Retells report (Report.nonblank report) ∧
      ∀ (fresh : Session) (parts : List (Timestamp × Part)), fresh.store.filter = {} →
        Report.Retells report (parts.map Prod.snd) →
        (fresh.after (Report.retold report parts)).store.filter = filter := by
  intro session filter report
  have plain : filter.Plain := plain_after (unset ▸ Filter.plain_empty) lines
  refine ⟨?numbers, ?prints, ?verdict, ?blank, ?same, Report.retells_nonblank plain, ?retold⟩
  case numbers =>
    refine ⟨plain .pid, plain .parent, (plain .minLifetime).1, (plain .maxLifetime).1, ?_⟩
    intro name given empty
    exact (plain .command name given).ne_nil (congrArg String.toList empty)
  case prints => exact fun now text => step_showFilter
  case verdict => exact fun record => Filter.accepts_iff_admits record.subject
  case blank =>
    intro field shown record
    rw [Report.shown_filter plain, Part.text] at shown
    have missing := (plain field).eq_clear (by rw [Filter.field_required, shown])
    rw [missing, Filter.field_required]
    exact field.admits_clear record.subject
  case same =>
    intro other otherLines otherUnset same
    exact eq_of_report_eq (plain_after (otherUnset ▸ Filter.plain_empty) otherLines) plain same
  case retold => exact fun fresh parts freshUnset => filter_retold plain freshUnset parts

/-- The name is cut in front of a character that would go on behind its fifteenth byte, a requirement is
taken away again, and one line is refused.  Retold in another order and with a zero, the rest comes out
the same. -/
theorem filter_report_tells_all_of_cut_name :
    let start := create {} 0
    let lines : List TimedText :=
      [(1, "pid +042"), (2, "ppid 7"), (3, "fork 7 1 sh"), (4, " comm  xgrüße-aus-köln"),
        (5, "ppid 00"), (6, "enable"), (7, "maxlife 18446744073709551615"), (8, "maxlife 1.5")]
    let session := start.after lines
    let report := Report.filter session.store.filter
    let parts : List (Timestamp × Part) :=
      [(3, .field .maxLifetime), (2, .field .command), (2, .field .parent), (9, .switch),
        (9, .field .pid)]
    start.store.filter = {} ∧
      session.store.filter =
        { enabled := true
          pid := some 42
          command := some (CommandName.ofString "xgrüße-aus-k")
          maxLifetime := some 18446744073709551615 } ∧
      (session.step 9 "filter").1 = .print report ∧
      Report.shown report (.field .parent) = Filter.Field.blank .parent ∧
      Report.Retells report (parts.map Prod.snd) ∧
      (Report.retold report parts).map Prod.snd =
        ["maxlife 18446744073709551615", "comm xgrüße-aus-k", "ppid 0", "enable", "pid 42"] ∧
      (start.after (Report.retold report parts)).store.filter = session.store.filter := by
  intro start lines session report parts
  have left : session.store.filter =
      { enabled := true
        pid := some 42
        command := some (CommandName.ofString "xgrüße-aus-k")
        maxLifetime := some 18446744073709551615 } := by
    decide +kernel
  have shown : ∀ part, Report.shown report part = part.text session.store.filter :=
    Report.shown_filter (plain_after Filter.plain_empty lines)
  rw [left] at shown
  have retells : Report.Retells report (parts.map Prod.snd) := by
    constructor
    case switch => decide
    case shown =>
      intro field
      rw [shown]
      cases field <;> decide
    case given =>
      intro field
      rw [shown]
      cases field <;> decide
  have told : (Report.retold report parts).map Prod.snd =
      ["maxlife 18446744073709551615", "comm xgrüße-aus-k", "ppid 0", "enable", "pid 42"] := by
    simp only [parts, Report.retold, List.map_cons, List.map_nil, Report.retelling, shown]
    decide
  have zero : Report.shown report (.field .parent) = Filter.Field.blank .parent :=
    (shown _).trans (by decide)
  obtain ⟨-, prints, -, -, -, -, restores⟩ := filter_report_tells_all start rfl lines
  have printed := congrArg Prod.fst (prints 9 "filter" rfl)
  refine ⟨rfl, left, printed, zero, retells, told, ?_⟩
  dsimp only [report, session]
  exact restores start parts rfl retells

end Session

end ProcessWatch
