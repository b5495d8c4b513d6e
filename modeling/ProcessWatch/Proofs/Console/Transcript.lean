/-
Module: ProcessWatch.Proofs.Console.Transcript
Purpose: What a session prints is what its lines are answered with, one after the other, up to the line
  that ends it; and a line that is blank or refused leaves no trace in it.
Trusted boundary: calls meet enough memory, for which Proofs.Roster.Memory gives a condition
Main exports: Command.refusal?, Console.reply_eq_error_iff, Console.replies, Session.effective,
  Session.telling, Session.transcript, Session.run_eq_transcript, Session.output_is_transcript
-/
import ProcessWatch.Console.Session
import ProcessWatch.Proofs.Command.Grammar
import ProcessWatch.Proofs.Console.Conversation
import ProcessWatch.Proofs.Text.Trim

namespace ProcessWatch

/-! ## Blank lines -/

namespace Text

/-- The text holds nothing but blanks. -/
def isAllBlank (text : String) : Bool := text.toList.all isBlank

/-- Nothing is left of a line without its outer blanks exactly if it is all blank. -/
theorem trim_eq_empty_iff_isAllBlank {text : String} : trim text = "" ↔ isAllBlank text = true := by
  rw [trim_eq_iff, String.toList_empty, trims_nil_iff, isAllBlank, List.all_eq_true]

end Text

namespace Command

/-- The line ends the session. -/
def isFarewell (line : String) : Bool := parse line = .ok .quit

/-- What a line is refused for: it gives no command, or the filter refuses the value in it. -/
def refusal? (line : String) : Option CommandError :=
  match parse line with
  | .error error => some error
  | .ok (.setFilter field value) =>
      match field.read value with
      | .error cause => some (.filter cause)
      | .ok _ => none
  | .ok _ => none

/-- A line that is refused for its first word is not read as a command. -/
theorem parse_of_refusal {line word : String} (refused : refusal? line = some (.unknown word)) :
    parse line = .error (.unknown word) := by
  unfold refusal? at refused
  split at refused
  case h_1 error found =>
    rw [found, Option.some.inj refused]
  case h_2 field value found =>
    split at refused <;> cases refused
  case h_3 => cases refused

/-- What follows the first word is never refused for that word. -/
theorem ne_unknown_of_misfit {keyword : Keyword} {places : List Keyword.Place}
    {words : List String} {error : CommandError} (misfit : keyword.Misfit places words error)
    (word : String) : error ≠ .unknown word := by
  induction misfit with
  | later _ _ inductionHypothesis => exact inductionHypothesis
  | _ => exact nofun

/-- A line without words, and no other, is refused for an empty first word. -/
theorem parse_eq_unknown_empty_iff {line : String} :
    parse line = .error (.unknown "") ↔ Text.words line = [] := by
  rw [parse, ofWords_eq_error_iff]
  constructor
  · intro flaw
    generalize found : Text.words line = words at flaw
    cases flaw with
    | blank => rfl
    | unknown =>
        have member : "" ∈ Text.words line := found ▸ List.mem_cons_self
        exact absurd rfl (Text.isWord_of_mem_words member).ne_nil
    | arguments _ misfit => exact absurd rfl (ne_unknown_of_misfit misfit "")
  · intro empty
    rw [empty]
    exact .blank

end Command

namespace Console

variable {console : Console} {now : Timestamp} {store : Store} {line : String}

/-! ## One line -/

/-- The reply to a line does not depend on where its news goes. -/
theorem executeLine_reply :
    (console.executeLine now store line).reply = (console.dispatchLine now store line).reply :=
  (settle_events now (console.dispatchLine now store line).events _).1

/-- A change of the filter is refused for what its value is refused for, and otherwise confirmed. -/
theorem reply_changeFilter_set {field : Filter.Field} {value text : String} :
    (changeFilter store (.set field value) text).reply =
      match field.read value with
      | .error cause => .error (.filter cause)
      | .ok _ => .ok (.text text) := by
  simp only [changeFilter, Store.askFilter, Filter.perform, Filter.performSet, Filter.set]
  cases field.read value <;> rfl

/-- Whether a line is refused, and what for, does not depend on the console and its store. -/
theorem reply_eq_error_iff {error : CommandError} :
    (console.executeLine now store line).reply = .error error ↔
      Command.refusal? line = some error := by
  rw [executeLine_reply, dispatchLine, Command.refusal?]
  cases Command.parse line with
  | error cause => simp
  | ok command =>
      simp only [dispatch]
      cases command with
      | setFilter field value =>
          simp only [act, reply_changeFilter_set]
          cases field.read value <;> simp
      | _ => simp [act, confirm, changeFilter, report, announce, Store.askFilter, Filter.perform]

/-- Only the command to quit is answered by the end of the session. -/
theorem reply_eq_quit_iff :
    (console.executeLine now store line).reply = .ok .quit ↔ Command.parse line = .ok .quit := by
  rw [executeLine_reply, dispatchLine]
  cases Command.parse line with
  | error cause => simp
  | ok command =>
      simp only [dispatch]
      cases command with
      | setFilter field value =>
          simp only [act, reply_changeFilter_set]
          cases field.read value <;> simp
      | _ => simp [act, confirm, changeFilter, report, announce, Store.askFilter, Filter.perform]

/-- Some console fails to carry out the line on some store. -/
def Fails (line : String) : Prop :=
  ∃ (console : Console) (now : Timestamp) (store : Store) (error : CommandError),
    (console.executeLine now store line).reply = .error error

/-- A line fails exactly if it is no command or a command that is refused. -/
theorem fails_iff : Fails line ↔ ∃ error, Command.refusal? line = some error := by
  constructor
  · rintro ⟨console, now, store, error, failed⟩
    exact ⟨error, reply_eq_error_iff.mp failed⟩
  · rintro ⟨error, refused⟩
    exact ⟨create 0, 0, default, error, reply_eq_error_iff.mpr refused⟩

/-- A line that is refused leaves the store as it is. -/
theorem executeLine_store_of_refusal {error : CommandError}
    (refused : Command.refusal? line = some error) :
    (console.executeLine now store line).store = store := by
  have reply : (console.executeLine now store line).reply = .error error :=
    reply_eq_error_iff.mpr refused
  rw [executeLine_reply] at reply
  have inert := dispatchLine_inert (.inl (by rw [reply]; rfl))
  rw [executeLine, settle, inert.events_eq, List.foldl_nil, inert.store_eq]

/-! ## Replies -/

/-- A line with the reading of the clock while it is carried out. -/
abbrev TimedText := Timestamp × String

/-- The replies to some lines, each of which is carried out on the store that those before it left. -/
def replies (console : Console) (store : Store) : List TimedText → List (Except CommandError Reply)
  | [] => []
  | (now, text) :: lines =>
      let execution := console.executeLine now store text
      execution.reply :: console.replies execution.store lines

/-- What is printed of a reply: a text without the blanks at its end, on lines of its own. -/
def printed : Except CommandError Reply → Option String
  | .ok (.text text) => some (Text.trimEnd text ++ "\n")
  | .ok .quit => none
  | .error _ => none

/-- The lines that are not refused. -/
def unrefused (lines : List TimedText) : List TimedText :=
  lines.filter fun line => (Command.refusal? line.2).isNone

/-- What is printed in reply to some lines is printed in reply to those that are not refused. -/
theorem printed_replies_unrefused (console : Console) (store : Store) (lines : List TimedText) :
    (console.replies store (unrefused lines)).filterMap printed =
      (console.replies store lines).filterMap printed := by
  induction lines generalizing store with
  | nil => rfl
  | cons line lines inductionHypothesis =>
      obtain ⟨now, text⟩ := line
      cases refused : Command.refusal? text with
      | none =>
          have kept : unrefused ((now, text) :: lines) = (now, text) :: unrefused lines := by
            simp [unrefused, refused]
          simp only [kept, replies, List.filterMap_cons, inductionHypothesis]
      | some error =>
          have dropped : unrefused ((now, text) :: lines) = unrefused lines := by
            simp [unrefused, refused]
          have reply : (console.executeLine now store text).reply = .error error :=
            reply_eq_error_iff.mpr refused
          simp only [dropped, replies, List.filterMap_cons, reply, printed,
            executeLine_store_of_refusal refused, inductionHypothesis]

end Console

namespace Session

open Console (TimedText)

variable {session : Session} {now : Timestamp} {text : String} {lines : List TimedText}

/-! ## Lines that matter -/

/-- The lines that are carried out: those before the first one that ends the session, blank ones left
out. -/
def effective (lines : List TimedText) : List TimedText :=
  (lines.takeWhile fun line => !Command.isFarewell line.2).filter fun line =>
    !Text.isAllBlank line.2

/-- What is printed in reply to some lines, one after the other. -/
def transcript (session : Session) (lines : List TimedText) : String :=
  String.join ((session.console.replies session.store lines).filterMap Console.printed)

/-- Some texts as the input of a session. -/
def input (lines : List TimedText) : List TimedLine :=
  lines.map fun line => (line.1, some line.2)

/-- A blank line does not end the session. -/
theorem isFarewell_of_blank (blank : Text.isAllBlank text = true) :
    Command.isFarewell text = false := by
  have noWords := Text.trim_eq_empty_iff.mp (Text.trim_eq_empty_iff_isAllBlank.mpr blank)
  rw [Command.isFarewell, Command.parse_eq_unknown_empty_iff.mpr noWords]
  rfl

theorem effective_cons_of_blank (blank : Text.isAllBlank text = true) :
    effective ((now, text) :: lines) = effective lines := by
  simp [effective, isFarewell_of_blank blank, blank]

/-- A line that ends the session makes all later ones idle. -/
theorem effective_cons_of_farewell (farewell : Command.isFarewell text = true) :
    effective ((now, text) :: lines) = [] := by
  simp [effective, farewell]

/-- Every other line takes effect before those behind it. -/
theorem effective_cons (visible : Text.isAllBlank text = false)
    (goesOn : Command.isFarewell text = false) :
    effective ((now, text) :: lines) = (now, text) :: effective lines := by
  simp [effective, visible, goesOn]

/-- A transcript tells of the first line, and then of the others on the store that it leaves. -/
theorem transcript_cons :
    session.transcript ((now, text) :: lines) =
      let execution := session.console.executeLine now session.store text
      (Console.printed execution.reply).getD "" ++
        ({ session with store := execution.store } : Session).transcript lines := by
  simp only [transcript, Console.replies, List.filterMap_cons]
  cases Console.printed (session.console.executeLine now session.store text).reply with
  | none => simp
  | some output => simp

/-- A line whose answer is not the end of the session does not end it. -/
theorem not_isFarewell_of_reply
    (goesOn : (session.console.executeLine now session.store text).reply ≠ .ok .quit) :
    Command.isFarewell text = false :=
  decide_eq_false (mt Console.reply_eq_quit_iff.mpr goesOn)

/-! ## One line -/

/-- What is done after a line that is replied to. -/
def Next.ofReply : Except CommandError Reply → Next
  | .ok (.text text) => .print (Text.trimEnd text ++ "\n")
  | .ok .quit => .stop
  | .error error => .complain error

theorem step_of_blank (blank : Text.isAllBlank text = true) :
    session.step now text = (.pass, session) := by
  rw [step, if_pos (Text.trim_eq_empty_iff_isAllBlank.mpr blank)]

/-- A session carries out every other line, and goes on as its reply says. -/
theorem step_of_visible (visible : Text.isAllBlank text = false) :
    session.step now text =
      let execution := session.console.executeLine now session.store text
      (Next.ofReply execution.reply, { session with store := execution.store }) := by
  have notEmpty : Text.trim text ≠ "" := by
    rw [Ne, Text.trim_eq_empty_iff_isAllBlank, visible]
    decide
  rw [step, if_neg notEmpty]
  rcases found : (session.console.executeLine now session.store text).reply with
    error | reply | _ <;> simp only [found, Next.ofReply]

theorem Next.reply_of_complain {reply : Except CommandError Reply} {error : CommandError}
    (complains : Next.ofReply reply = .complain error) : reply = .error error := by
  rcases reply with cause | answer | _ <;> cases complains
  rfl

/-- A blank line is passed over before it could be refused. -/
theorem step_ne_complain_unknown_empty (session : Session) (now : Timestamp) (text : String) :
    (session.step now text).1 ≠ .complain (.unknown "") := by
  intro complains
  cases visible : Text.isAllBlank text with
  | true =>
      rw [step_of_blank visible] at complains
      cases complains
  | false =>
      rw [step_of_visible visible] at complains
      have refused := Console.reply_eq_error_iff.mp (Next.reply_of_complain complains)
      have noWords := Command.parse_eq_unknown_empty_iff.mp (Command.parse_of_refusal refused)
      rw [← Text.trim_eq_empty_iff, Text.trim_eq_empty_iff_isAllBlank, visible] at noWords
      cases noWords

/-! ## Whole sessions -/

/-- A session prints the replies to the lines that are carried out in it, and nothing else. -/
theorem run_eq_transcript (session : Session) (lines : List TimedText) :
    session.run (input lines) = (session.transcript (effective lines), .finished) := by
  induction lines generalizing session with
  | nil => rfl
  | cons line lines inductionHypothesis =>
      obtain ⟨now, text⟩ := line
      have unfolded : input ((now, text) :: lines) = (now, some text) :: input lines := rfl
      cases visible : Text.isAllBlank text with
      | true =>
          rw [effective_cons_of_blank visible, unfolded, run, step_of_blank visible]
          exact inductionHypothesis session
      | false =>
          have next : session.step now text = _ := step_of_visible visible
          rw [unfolded, run, next]
          rcases reply : (session.console.executeLine now session.store text).reply with
            error | answer | _
          case error =>
            have goesOn := not_isFarewell_of_reply (by rw [reply]; exact nofun)
            rw [effective_cons visible goesOn, transcript_cons]
            simp only [reply, Next.ofReply, Console.printed, Option.getD_none, String.empty_append]
            exact inductionHypothesis _
          case ok.text =>
            have goesOn := not_isFarewell_of_reply (by rw [reply]; exact nofun)
            rw [effective_cons visible goesOn, transcript_cons]
            simp only [reply, Next.ofReply, Console.printed, Option.getD_some, inductionHypothesis]
          case ok.quit =>
            have farewell : Command.isFarewell text = true :=
              decide_eq_true (Console.reply_eq_quit_iff.mp reply)
            rw [effective_cons_of_farewell farewell]
            simp only [reply, Next.ofReply]
            rfl

/-! ## Lines that do not matter -/

/-- The lines that are carried out and not refused. -/
def telling (lines : List TimedText) : List TimedText :=
  Console.unrefused (effective lines)

/-- Sessions with the same telling lines print the same. -/
theorem run_eq_of_telling_eq {first second : List TimedText} (same : telling first = telling second) :
    session.run (input first) = session.run (input second) := by
  have transcripts : ∀ lines,
      session.transcript (effective lines) = session.transcript (telling lines) :=
    fun lines => congrArg String.join
      (Console.printed_replies_unrefused session.console session.store (effective lines)).symm
  rw [run_eq_transcript, run_eq_transcript, transcripts, transcripts, same]

/-- A line that is refused does not end the session. -/
theorem isFarewell_of_refusal {error : CommandError} (refused : Command.refusal? text = some error) :
    Command.isFarewell text = false := by
  rw [Command.isFarewell, decide_eq_false_iff_not]
  intro farewell
  rw [Command.refusal?, farewell] at refused
  cases refused

/-- An idle line in front adds nothing to what is told. -/
theorem telling_cons_of_idle {line : TimedText}
    (idle : Text.isAllBlank line.2 = true ∨ Console.Fails line.2) :
    telling (line :: lines) = telling lines := by
  obtain ⟨now, text⟩ := line
  cases visible : Text.isAllBlank text with
  | true => rw [telling, effective_cons_of_blank visible, telling]
  | false =>
      have fails : Console.Fails text := by simpa [visible] using idle
      obtain ⟨error, refused⟩ := Console.fails_iff.mp fails
      rw [telling, effective_cons visible (isFarewell_of_refusal refused), telling]
      exact List.filter_cons_of_neg (by simp [refused])

/-- A line in front adds the same to lines that tell the same. -/
theorem telling_cons_congr {first second : List TimedText} (same : telling first = telling second)
    (line : TimedText) : telling (line :: first) = telling (line :: second) := by
  obtain ⟨now, text⟩ := line
  cases visible : Text.isAllBlank text with
  | true =>
      rw [telling, telling, effective_cons_of_blank visible, effective_cons_of_blank visible]
      exact same
  | false =>
      cases farewell : Command.isFarewell text with
      | true =>
          rw [telling, telling, effective_cons_of_farewell farewell,
            effective_cons_of_farewell farewell]
      | false =>
          rw [telling, telling, effective_cons visible farewell, effective_cons visible farewell]
          rw [telling, telling] at same
          simp only [Console.unrefused, List.filter_cons] at same ⊢
          rw [same]

/-- Lines that are blank or refused may stand anywhere or be left out. -/
theorem telling_insert {extra : List TimedText}
    (idle : ∀ line ∈ extra, Text.isAllBlank line.2 = true ∨ Console.Fails line.2)
    (before after : List TimedText) :
    telling (before ++ extra ++ after) = telling (before ++ after) := by
  induction before with
  | cons line before inductionHypothesis => exact telling_cons_congr inductionHypothesis line
  | nil =>
      induction extra with
      | nil => rfl
      | cons line extra inductionHypothesis =>
          obtain ⟨first, others⟩ := List.forall_mem_cons.mp idle
          exact (telling_cons_of_idle first).trans (inductionHypothesis others)

/-- Lines after the one that ends the session may be left out, and so may that line. -/
theorem effective_append_farewell (farewell : Command.isFarewell text = true)
    (before after : List TimedText) :
    effective (before ++ (now, text) :: after) = effective before := by
  induction before with
  | nil => exact effective_cons_of_farewell farewell
  | cons line before inductionHypothesis =>
      simp only [effective, List.cons_append, List.takeWhile_cons] at inductionHypothesis ⊢
      cases Command.isFarewell line.2 with
      | true => rfl
      | false => simp only [Bool.not_false, if_true, List.filter_cons, inductionHypothesis]

/-! ## Bytes -/

/-- A session on readable bytes is one on their lines, each at the time at which it is read. -/
theorem ofInput_eq_run (settings : Settings) (origin : Timestamp) (reading : Nat → Timestamp)
    {bytes : List UInt8} {texts : List String} (readable : linesOfBytes bytes = texts.map some) :
    ofInput settings origin reading bytes =
      (create settings origin).run
        (input (texts.mapIdx fun number text => (reading number, text))) := by
  have numbered : ((texts.map some).mapIdx fun number line => (reading number, line)) =
      input (texts.mapIdx fun number text => (reading number, text)) :=
    List.ext_getElem (by simp [input]) (by simp [input])
  rw [ofInput, readable, numbered]

/-- A session prints the texts that the lines before the first one that ends it are answered with, blank
lines left out, each text without the blanks at its end and with a line feed instead.  Lines that are
blank or that fail may be added or taken away, and so may lines after the end.  A blank line is never
refused, since nothing is left of a line without its outer blanks exactly if it has no words. -/
theorem output_is_transcript (session : Session) (lines : List TimedText) :
    session.run (input lines) = (session.transcript (effective lines), .finished) ∧
      (∀ (settings : Settings) (origin : Timestamp) (reading : Nat → Timestamp)
        (bytes : List UInt8) (texts : List String), linesOfBytes bytes = texts.map some →
        ofInput settings origin reading bytes =
          ((create settings origin).transcript
            (effective (texts.mapIdx fun number text => (reading number, text))), .finished)) ∧
      (∀ before extra after : List TimedText,
        (∀ line ∈ extra, Text.isAllBlank line.2 = true ∨ Console.Fails line.2) →
        session.run (input (before ++ extra ++ after)) = session.run (input (before ++ after))) ∧
      (∀ (before after : List TimedText) (now : Timestamp) (text : String),
        Command.parse text = .ok .quit →
        session.run (input (before ++ (now, text) :: after)) = session.run (input before)) ∧
      (∀ now text, (session.step now text).1 ≠ .complain (.unknown "")) ∧
      ∀ text, (Text.isAllBlank text = true ↔ Text.trim text = "") ∧
        (Text.trim text = "" ↔ Text.words text = []) := by
  refine ⟨run_eq_transcript session lines, ?_, ?_, ?_, step_ne_complain_unknown_empty session, ?_⟩
  · intro settings origin reading bytes texts readable
    rw [ofInput_eq_run settings origin reading readable, run_eq_transcript]
  · exact fun before extra after idle => run_eq_of_telling_eq (telling_insert idle before after)
  · intro before after now text farewell
    rw [run_eq_transcript, run_eq_transcript,
      effective_append_farewell (decide_eq_true farewell) before after]
  · exact fun text => ⟨Text.trim_eq_empty_iff_isAllBlank.symm, Text.trim_eq_empty_iff⟩

/-- Blanks of two kinds, a line that the filter refuses and one that is no command are left out, and
nothing is carried out after the end.  The bytes are those of `stop` and `q` on two lines. -/
theorem output_is_transcript_of_farewell :
    let session := create {} 0
    let before : List TimedText := [(1, "fork 7 1 sh")]
    let extra : List TimedText := [(2, " \u00a0\t"), (3, "minlife soon"), (4, "reboot")]
    let after : List TimedText := [(5, "stop ")]
    let bytes : List UInt8 := [115, 116, 111, 112, 13, 10, 113]
    (∀ line ∈ extra, Text.isAllBlank line.2 = true ∨ Console.Fails line.2) ∧
      session.run (input (before ++ extra ++ after)) = session.run (input (before ++ after)) ∧
      Command.parse " q" = .ok .quit ∧
      session.run (input ((before ++ after) ++ (6, " q") :: [(7, "start")])) =
        session.run (input (before ++ after)) ∧
      session.run (input (before ++ after)) = ("fork 7 sent\nstop ok\n", .finished) ∧
      linesOfBytes bytes = ["stop", "q"].map some ∧
      ofInput {} 0 id bytes = ("stop ok\n", .finished) := by
  intro session before extra after bytes
  have idle : ∀ line ∈ extra, Text.isAllBlank line.2 = true ∨ Console.Fails line.2 := by
    intro line member
    rcases List.mem_cons.mp member with rfl | member
    · exact .inl rfl
    rcases List.mem_cons.mp member with rfl | member
    · exact .inr (Console.fails_iff.mpr ⟨_, rfl⟩)
    · rw [List.mem_singleton.mp member]
      exact .inr (Console.fails_iff.mpr ⟨_, rfl⟩)
  have readable : linesOfBytes bytes = ["stop", "q"].map some := rfl
  obtain ⟨printed, piped, inserted, ended, -⟩ := output_is_transcript session (before ++ after)
  exact ⟨idle, inserted before extra after idle, rfl, ended _ _ 6 " q" rfl, printed.trans rfl,
    readable, (piped {} 0 id _ _ readable).trans rfl⟩

end Session

end ProcessWatch
