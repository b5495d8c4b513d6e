/-
Module: ProcessWatch.Proofs.Console.Conversation
Purpose: A line that is refused leaves no trace, and neither does one that asks for a report; a
  conversation goes on as if its refused lines had never been entered.
Trusted boundary: calls meet enough memory, for which Proofs.Roster.Memory gives a condition
Main exports: Command.isReport, Execution.Inert, Console.dispatchLine_inert, Console.Turn,
  Console.converse, Console.converse_accepted, Console.refused_lines_inert

What the console hands on goes to a sink that may act on the store as it likes, and between two lines
anything may happen to the store and the sink.
-/
import ProcessWatch.Console.Basic

namespace ProcessWatch

/-- The command asks for a report, or ends the session. -/
def Command.isReport : Command → Bool
  | .showStats | .listProcesses _ | .listRecent _ | .showFilter | .showControl | .exportJson _
  | .help | .quit => true
  | _ => false

/-- The reply is a refusal. -/
def isRefusal : Except CommandError Reply → Bool
  | .ok _ => false
  | .error _ => true

/-- The store is as it was, and there is no news to be handed on. -/
structure Execution.Inert (execution : Execution) (store : Store) : Prop where
  store_eq : execution.store = store
  events_eq : execution.events = []

/-- A filter refuses before it changes anything. -/
theorem Filter.filter_of_refused {filter : Filter} {call : Filter.Call} {error : FilterError}
    (refused : (filter.perform call).answer = .refused error) :
    (filter.perform call).filter = filter := by
  cases call with
  | set field text =>
      simp only [Filter.perform, Filter.performSet] at refused ⊢
      cases changed : filter.set field text with
      | ok next => simp [changed] at refused
      | error cause => rfl
  | _ => cases refused

namespace Console

/-! ## One command -/

theorem changeFilter_inert {store : Store} {call : Filter.Call} {text : String}
    (refused : isRefusal (changeFilter store call text).reply = true) :
    (changeFilter store call text).Inert store := by
  simp only [changeFilter, Store.askFilter] at refused ⊢
  cases answer : (store.filter.perform call).answer with
  | refused error => exact ⟨by simp [Filter.filter_of_refused answer], rfl⟩
  | done => simp [answer, confirm, isRefusal] at refused
  | flag value => simp [answer, confirm, isRefusal] at refused
  | current filter => simp [answer, confirm, isRefusal] at refused

variable {console : Console} {now : Timestamp} {store : Store} {command : Command}

/-- Only the filter can refuse a command, and it does so before it changes. -/
theorem act_inert_of_isRefusal (refused : isRefusal (console.act now store command).reply = true) :
    (console.act now store command).Inert store := by
  cases command with
  | enableFilter => exact @changeFilter_inert store .enable "filter enabled" refused
  | disableFilter => exact @changeFilter_inert store .disable "filter disabled" refused
  | resetFilter => exact @changeFilter_inert store .reset "filter reset" refused
  | setFilter field value => exact changeFilter_inert refused
  | _ => cases refused

theorem act_inert_of_isReport (isReport : command.isReport = true) :
    (console.act now store command).Inert store := by
  cases command with
  | showStats => exact ⟨rfl, rfl⟩
  | listProcesses limit => exact ⟨rfl, rfl⟩
  | listRecent count => exact ⟨rfl, rfl⟩
  | showFilter => exact ⟨rfl, rfl⟩
  | showControl => exact ⟨rfl, rfl⟩
  | exportJson limit => exact ⟨rfl, rfl⟩
  | help => exact ⟨rfl, rfl⟩
  | quit => exact ⟨rfl, rfl⟩
  | _ => cases isReport

/-- A line that is refused or asks for a report leaves the store alone and hands nothing on. -/
theorem dispatchLine_inert {line : String}
    (harmless : isRefusal (console.dispatchLine now store line).reply = true ∨
      ∃ command, Command.parse line = .ok command ∧ command.isReport = true) :
    (console.dispatchLine now store line).Inert store := by
  unfold dispatchLine at harmless ⊢
  cases parsed : Command.parse line with
  | error error => exact ⟨rfl, rfl⟩
  | ok command =>
      have inert : (console.act now store command).Inert store := by
        rcases harmless with refused | ⟨other, same, isReport⟩
        · rw [parsed] at refused
          exact act_inert_of_isRefusal refused
        · obtain rfl := Except.ok.inj (parsed.symm.trans same)
          exact act_inert_of_isReport isReport
      exact ⟨inert.store_eq, inert.events_eq⟩

/-! ## Conversations -/

/-- The sink takes news at a time, and may change the store by it. -/
abbrev Acceptor (σ : Type) := Timestamp → Store × σ → Event → Store × σ

/-- A sink that is the store itself. -/
def direct : Acceptor Unit :=
  fun now state event => ((state.1.deliver now event).store, ())

/-- What happens in a conversation. -/
inductive Turn (σ : Type) where
  /-- A line is entered. -/
  | line (now : Timestamp) (text : String)
  /-- The store and the sink change without the console. -/
  | elsewhere (change : Store × σ → Store × σ)

section Conversation

variable {σ : Type} (console : Console) (accept : Acceptor σ)

/-- The reply in a turn, and the store and the sink after it. -/
def take (state : Store × σ) : Turn σ → Option (Except CommandError Reply) × Store × σ
  | .line now text =>
      let execution := console.dispatchLine now state.1 text
      (some execution.reply, execution.events.foldl (accept now) (execution.store, state.2))
  | .elsewhere change => (none, change state)

/-- The replies of a conversation, and the store and the sink at its end. -/
def converse (state : Store × σ) :
    List (Turn σ) → List (Except CommandError Reply) × Store × σ
  | [] => ([], state)
  | turn :: turns =>
      let (reply, next) := console.take accept state turn
      let (replies, final) := converse next turns
      (reply.toList ++ replies, final)

/-- The turns of a conversation without the lines that are refused in it. -/
def accepted (state : Store × σ) : List (Turn σ) → List (Turn σ)
  | [] => []
  | turn :: turns =>
      let (reply, next) := console.take accept state turn
      if reply.any isRefusal then accepted next turns else turn :: accepted next turns

variable {console accept}

/-- Nothing comes of a turn that is refused. -/
theorem take_of_isRefusal {state : Store × σ} {turn : Turn σ}
    (refused : (console.take accept state turn).1.any isRefusal = true) :
    (console.take accept state turn).2 = state := by
  cases turn with
  | elsewhere change => cases refused
  | line now text =>
      have inert : (console.dispatchLine now state.1 text).Inert state.1 :=
        dispatchLine_inert (.inl refused)
      simp only [take, inert.store_eq, inert.events_eq, List.foldl_nil]

/-- Without the refused lines every other line is answered as before, and the end is the same. -/
theorem converse_accepted (state : Store × σ) (turns : List (Turn σ)) :
    console.converse accept state (console.accepted accept state turns) =
      ((console.converse accept state turns).1.filter fun reply => !isRefusal reply,
        (console.converse accept state turns).2) := by
  induction turns generalizing state with
  | nil => rfl
  | cons turn turns inductionHypothesis =>
      have later := inductionHypothesis (console.take accept state turn).2
      cases refused : (console.take accept state turn).1.any isRefusal with
      | true =>
          have untouched := take_of_isRefusal refused
          rw [untouched] at later
          cases given : (console.take accept state turn).1 with
          | none => simp [given] at refused
          | some reply =>
              have failed : isRefusal reply = true := by
                simpa [given] using refused
              simp [accepted, converse, given, untouched, later, failed]
      | false =>
          cases given : (console.take accept state turn).1 with
          | none => simp [accepted, converse, given, later]
          | some reply =>
              have answered : isRefusal reply = false := by
                simpa [given] using refused
              simp [accepted, converse, given, later, answered]

end Conversation

/-! ## News straight to the store -/

theorem settle_events (now : Timestamp) (events : List Event) (execution : Execution) :
    let settled := settle now { execution with events := events }
    settled.reply = execution.reply ∧
      (settled.store, ()) = events.foldl (direct now) (execution.store, ()) := by
  induction events generalizing execution with
  | nil => exact ⟨rfl, rfl⟩
  | cons event events inductionHypothesis =>
      let outcome := execution.store.deliver now event
      exact inductionHypothesis
        { execution with store := outcome.store, log := execution.log ++ outcome.log }

/-- A console without another sink takes its lines with the store as the sink. -/
theorem take_direct (console : Console) (now : Timestamp) (store : Store) (line : String) :
    console.take direct (store, ()) (.line now line) =
      (some (console.executeLine now store line).reply,
        (console.executeLine now store line).store, ()) := by
  let execution := console.dispatchLine now store line
  obtain ⟨reply, settled⟩ := settle_events now execution.events execution
  exact Prod.ext (congrArg some reply.symm) settled.symm

/-- A line that is refused or asks for a report leaves the store as it is and hands nothing on, also
where the store itself takes the news; and a conversation without its refused lines has the same
other replies and the same end. -/
theorem refused_lines_inert {σ : Type} (console : Console) (accept : Acceptor σ)
    (state : Store × σ) (turns : List (Turn σ)) :
    (∀ now store line,
      (isRefusal (console.dispatchLine now store line).reply = true ∨
        ∃ command, Command.parse line = .ok command ∧ command.isReport = true) →
      (console.dispatchLine now store line).store = store ∧
        (console.dispatchLine now store line).events = [] ∧
        (console.executeLine now store line).store = store) ∧
      (∀ now store line, console.take direct (store, ()) (.line now line) =
        (some (console.executeLine now store line).reply,
          (console.executeLine now store line).store, ())) ∧
      console.converse accept state (console.accepted accept state turns) =
        ((console.converse accept state turns).1.filter fun reply => !isRefusal reply,
          (console.converse accept state turns).2) := by
  refine ⟨?_, console.take_direct, converse_accepted state turns⟩
  intro now store line harmless
  have inert := dispatchLine_inert harmless
  have settled := console.take_direct now store line
  simp only [take, inert.store_eq, inert.events_eq, List.foldl_nil, Prod.mk.injEq] at settled
  exact ⟨inert.store_eq, inert.events_eq, settled.2.1.symm⟩

/-- The filter refuses this line after it was read as a command, and without it the other line is
answered as before. -/
theorem refused_lines_inert_of_lifetime :
    let console := create 10
    let store := (Store.create {} 5).store
    let turns : List (Turn Unit) := [.line 5 "minlife soon", .line 6 "stop"]
    isRefusal (console.dispatchLine 5 store "minlife soon").reply = true ∧
      (console.executeLine 5 store "minlife soon").store = store ∧
      console.converse direct (store, ()) (console.accepted direct (store, ()) turns) =
        ([.ok (.text "stop ok")], store.setMonitoring false, ()) :=
  ⟨rfl,
    ((@refused_lines_inert Unit (create 10) direct ((Store.create {} 5).store, ()) []).1
      5 (Store.create {} 5).store "minlife soon" (.inl rfl)).2.2,
    (@refused_lines_inert Unit (create 10) direct ((Store.create {} 5).store, ())
      [.line 5 "minlife soon", .line 6 "stop"]).2.2.trans rfl⟩

end Console

end ProcessWatch
