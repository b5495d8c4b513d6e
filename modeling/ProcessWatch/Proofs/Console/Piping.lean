/-
Module: ProcessWatch.Proofs.Console.Piping
Purpose: A console that hands its news to a channel in front of its store leaves the store, once the
  channel has been shut down, as a console does that gives its news to the store itself.
Trusted boundary: calls meet enough memory, for which Proofs.Roster.Memory gives a condition
Main exports: Command.event?, Command.filterCall?, Command.parsesAs, Console.PipeStep, Console.pipe,
  Channel.pending, Console.Piped, Console.Piped.run, Console.piped_as_direct

The news waits in the channel while later lines are carried out.  As long as no line orders the store
about, such a line changes nothing but the filter, and what is recorded does not depend on the filter;
so the news may come as late as it likes.
-/
import ProcessWatch.Proofs.Channel.Delivery
import ProcessWatch.Proofs.Console.Conversation
import ProcessWatch.Proofs.Monitor.Change

namespace ProcessWatch

/-! ## The kinds of lines -/

namespace Command

/-- The command orders the store about. -/
def isControl : Command → Bool
  | .control _ => true
  | _ => false

/-- The command makes up news of a process. -/
def isNews : Command → Bool
  | .fork _ _ _ | .exit _ _ => true
  | _ => false

/-- The news that a command makes up. -/
def event? : Command → Option Event
  | .fork pid parent name => some (.start pid parent (CommandName.ofString name))
  | .exit pid exitCode => some (.exit pid exitCode {})
  | _ => none

/-- The request to the filter that a command is. -/
def filterCall? : Command → Option Filter.Call
  | .enableFilter => some .enable
  | .disableFilter => some .disable
  | .resetFilter => some .reset
  | .setFilter field value => some (.set field value)
  | _ => none

/-- The line gives a command of some kind. -/
def parsesAs (kind : Command → Bool) (line : String) : Bool :=
  match parse line with
  | .ok command => kind command
  | .error _ => false

/-- News is what comes of the commands that make some up, and of no others. -/
theorem isSome_event? (command : Command) : command.event?.isSome = command.isNews := by
  cases command <;> rfl

end Command

/-! ## Recording and the filter -/

namespace Store

/-- The store after it has recorded an event. -/
def recording (now : Timestamp) (store : Store) (event : Event) : Store :=
  (store.deliver now event).store

/-- The store after a request to its filter. -/
def asking (store : Store) (call : Filter.Call) : Store :=
  (store.askFilter call).store

/-- A name that is cut to its length on its way is not cut again. -/
theorem recording_start (now : Timestamp) (store : Store) (pid parent : Pid) (name : String) :
    store.recording now (.start pid parent (CommandName.ofString name)) =
      (store.start now pid parent name).store := by
  rw [recording, deliver, Monitor.start_store, CommandName.ofString_text, Monitor.start_store]

/-- Making room does not look at the filter. -/
theorem makeRoom_withFilter (store : Store) (filter : Filter) :
    ({ store with filter := filter } : Store).makeRoom =
      (store.makeRoom.1, { store.makeRoom.2 with filter := filter }) := by
  rw [makeRoom, makeRoom, size, size]
  split <;> rfl

theorem commitStart_withFilter (store : Store) (filter : Filter) (now : Timestamp)
    (pid parent : Pid) (name : CommandName) :
    (({ store with filter := filter } : Store).commitStart now pid parent name).2 =
      { (store.commitStart now pid parent name).2 with filter := filter } := by
  rw [commitStart, commitStart, makeRoom_withFilter]
  split <;> rfl

theorem commitExit_withFilter (store : Store) (filter : Filter) (now : Timestamp) (pid : Pid)
    (code : ExitCode) (usage : Usage) :
    (({ store with filter := filter } : Store).commitExit now pid code usage).2 =
      { (store.commitExit now pid code usage).2 with filter := filter } := by
  rw [commitExit, commitExit]
  split
  · cases store.index.detachNewest pid with
    | none => rfl
    | some found =>
        simp only
        cases found.1.record.exit? now code usage <;> rfl
  · rfl

/-- What is recorded does not depend on the filter, and recording leaves the filter alone. -/
theorem recording_withFilter (now : Timestamp) (store : Store) (event : Event) (filter : Filter) :
    ({ store with filter := filter } : Store).recording now event =
      { store.recording now event with filter := filter } := by
  cases event with
  | start pid parent name =>
      rw [recording, recording, deliver, deliver, Monitor.start_store, Monitor.start_store]
      exact commitStart_withFilter ..
  | exit pid code usage =>
      rw [recording, recording, deliver, deliver, Monitor.exit_store, Monitor.exit_store]
      exact commitExit_withFilter ..

/-- A request to the filter may come before or after the recording of an event. -/
theorem recording_asking (now : Timestamp) (store : Store) (event : Event) (call : Filter.Call) :
    (store.asking call).recording now event = (store.recording now event).asking call := by
  have frame := congrArg Store.filter (recording_withFilter now store event store.filter)
  have untouched : (store.recording now event).filter = store.filter := frame
  calc (store.asking call).recording now event
    _ = { store.recording now event with filter := (store.filter.perform call).filter } :=
        recording_withFilter ..
    _ = (store.recording now event).asking call := by rw [asking, askFilter, untouched]

/-- A change of the filter may come before or after any amount of news. -/
theorem foldl_recording_asking (now : Timestamp) (store : Store) (events : List Event)
    (call : Filter.Call) :
    events.foldl (recording now) (store.asking call) =
      (events.foldl (recording now) store).asking call := by
  induction events generalizing store with
  | nil => rfl
  | cons event events inductionHypothesis =>
      rw [List.foldl_cons, List.foldl_cons, recording_asking]
      exact inductionHypothesis _

end Store

namespace Console

/-! ## One line -/

/-- The news that a line makes up. -/
def news? (line : String) : Option Event :=
  match Command.parse line with
  | .ok command => command.event?
  | .error _ => none

/-- The request to the filter that a line is. -/
def filterCall? (line : String) : Option Filter.Call :=
  match Command.parse line with
  | .ok command => command.filterCall?
  | .error _ => none

/-- The store after a request to its filter, if there is one. -/
def adjusted (store : Store) (call : Option Filter.Call) : Store :=
  call.elim store store.asking

theorem isSome_news? (line : String) :
    (news? line).isSome = Command.parsesAs Command.isNews line := by
  unfold news? Command.parsesAs
  cases Command.parse line with
  | ok command => exact command.isSome_event?
  | error error => rfl

theorem changeFilter_store_events (store : Store) (call : Filter.Call) (text : String) :
    (changeFilter store call text).store = store.asking call ∧
      (changeFilter store call text).events = [] := by
  rw [changeFilter]
  split
  · exact ⟨rfl, rfl⟩
  · exact ⟨rfl, rfl⟩

/-- A command hands on its news and nothing else. -/
theorem act_events (console : Console) (now : Timestamp) (store : Store) (command : Command) :
    (console.act now store command).events = command.event?.toList := by
  cases command with
  | enableFilter => exact (changeFilter_store_events ..).2
  | disableFilter => exact (changeFilter_store_events ..).2
  | resetFilter => exact (changeFilter_store_events ..).2
  | setFilter field value => exact (changeFilter_store_events ..).2
  | _ => rfl

/-- Apart from orders, a command changes nothing of the store but the filter. -/
theorem act_store (console : Console) (now : Timestamp) (store : Store) {command : Command}
    (noOrder : command.isControl = false) :
    (console.act now store command).store = adjusted store command.filterCall? := by
  cases command with
  | control order => cases noOrder
  | enableFilter => exact (changeFilter_store_events ..).1
  | disableFilter => exact (changeFilter_store_events ..).1
  | resetFilter => exact (changeFilter_store_events ..).1
  | setFilter field value => exact (changeFilter_store_events ..).1
  | _ => rfl

variable {console : Console} {now : Timestamp} {line : String}

/-- A line hands on the same news whatever is in the store. -/
theorem dispatchLine_events (store : Store) :
    (console.dispatchLine now store line).events = (news? line).toList := by
  unfold dispatchLine news?
  cases Command.parse line with
  | ok command => exact console.act_events now store command
  | error error => rfl

/-- Before its news is recorded, a line that is no order changes the filter at most. -/
theorem dispatchLine_store (store : Store) (noOrder : Command.parsesAs Command.isControl line = false) :
    (console.dispatchLine now store line).store = adjusted store (filterCall? line) := by
  unfold dispatchLine filterCall?
  unfold Command.parsesAs at noOrder
  cases parsed : Command.parse line with
  | ok command =>
      rw [parsed] at noOrder
      exact console.act_store now store noOrder
  | error error => rfl

/-- The store after a line whose news goes straight to it. -/
def settled (console : Console) (now : Timestamp) (store : Store) (line : String) : Store :=
  (console.executeLine now store line).store

/-- A line that is no order changes the filter, then its news is recorded. -/
theorem settled_eq (store : Store) (noOrder : Command.parsesAs Command.isControl line = false) :
    console.settled now store line =
      (news? line).toList.foldl (Store.recording now) (adjusted store (filterCall? line)) := by
  have folded : ∀ (events : List Event) (store : Store),
      (events.foldl (direct now) (store, ())).1 = events.foldl (Store.recording now) store := by
    intro events
    induction events with
    | nil => exact fun store => rfl
    | cons event events inductionHypothesis => exact fun store => inductionHypothesis _
  have taken : (console.take direct (store, ()) (.line now line)).2.1 =
      console.settled now store line := by
    rw [take_direct]
    rfl
  rw [← taken, take, folded, dispatchLine_events, dispatchLine_store store noOrder]

end Console

/-! ## The channel -/

namespace Channel

variable {σ : Type}

/-- The events that were accepted and have not reached the sink yet. -/
def pending (channel : Channel σ) : List Event :=
  match channel.pump with
  | .holding event => event :: channel.queue
  | _ => channel.queue

/-- Pending are the events of the queue, and the one that the pump may hold. -/
theorem length_queue_le_pending (channel : Channel σ) :
    channel.queue.length ≤ channel.pending.length := by
  rw [pending]
  split
  · exact Nat.le_succ _
  · exact Nat.le_refl _

theorem pending_of_waiting {channel : Channel σ} (pump : channel.pump = .waiting) :
    channel.pending = channel.queue := by
  rw [pending, pump]

theorem pending_of_holding {channel : Channel σ} {event : Event}
    (pump : channel.pump = .holding event) : channel.pending = event :: channel.queue := by
  rw [pending, pump]

theorem pending_queue_append (channel : Channel σ) (sink : σ) (events : List Event) :
    pending { channel with queue := channel.queue ++ events, sink := sink } =
      channel.pending ++ events := by
  rw [pending, pending]
  cases channel.pump <;> rfl

end Channel

namespace Console

open Command (parsesAs isNews isControl)

/-- A step of a console with a channel in front of its store, or of the channel's pump. -/
inductive PipeStep where
  | line (text : String)
  | receive
  | deliver
deriving DecidableEq, Repr

/-- The line that is carried out in a step. -/
def PipeStep.line? : PipeStep → Option String
  | .line text => some text
  | _ => none

/-- The lines that are carried out in some steps. -/
def linesOf (steps : List PipeStep) : List String :=
  steps.filterMap PipeStep.line?

/-- A store takes every event. -/
def takeIn (now : Timestamp) (store : Store) (event : Event) : Option Store :=
  some (store.recording now event)

/-- Take a step.  The pump takes its steps whenever it likes, and nobody hears whether there was room
for the news of a line.  A line and a delivery are taken whole, as no change by the one depends on what
the other changes. -/
def pipe (console : Console) (now : Timestamp) (channel : Channel Store) :
    PipeStep → Channel Store
  | .line text =>
      let execution := console.dispatchLine now channel.sink text
      (({ channel with sink := execution.store } : Channel Store).sendAll execution.events).2
  | .receive => channel.receive
  | .deliver => channel.deliver (takeIn now)

/-- Take some steps one after the other. -/
def pipeAll (console : Console) (now : Timestamp) (channel : Channel Store)
    (steps : List PipeStep) : Channel Store :=
  steps.foldl (console.pipe now) channel

/-- Nothing was dropped of the `news` events so far, and once those that are pending have been recorded
the store is the one of a console without a channel. -/
structure Piped (now : Timestamp) (direct : Store) (news : Nat) (channel : Channel Store) :
    Prop where
  isOpen : channel.isOpen = true
  dropped : channel.dropped = 0
  counted : channel.delivered + channel.pending.length = news
  store : channel.pending.foldl (Store.recording now) channel.sink = direct

/-! ## One step -/

/-- The news of a line is one event at most, so that all of it is sent or all of it is dropped. -/
theorem pipe_line_cases (console : Console) (now : Timestamp) (channel : Channel Store)
    (line : String) :
    let sink := (console.dispatchLine now channel.sink line).store
    console.pipe now channel (.line line) =
        { channel with queue := channel.queue ++ (news? line).toList, sink := sink } ∨
      parsesAs isNews line = true ∧
        ¬(channel.isOpen = true ∧ channel.queue.length < channel.bound) ∧
        console.pipe now channel (.line line) =
          { channel with dropped := channel.dropped + 1, sink := sink } := by
  intro sink
  rw [pipe, dispatchLine_events, ← isSome_news?]
  cases news? line with
  | none =>
      left
      simp [Channel.sendAll, sink]
  | some event =>
      rcases Channel.send_cases { channel with sink := sink } event with
        ⟨-, -, sends⟩ | ⟨full, sends⟩
      · left
        simp [Channel.sendAll, sink, sends]
      · right
        exact ⟨rfl, full, by simp [Channel.sendAll, sink, sends]⟩

/-- A step never makes up for a drop. -/
theorem dropped_le_pipe (console : Console) (now : Timestamp) (channel : Channel Store)
    (step : PipeStep) : channel.dropped ≤ (console.pipe now channel step).dropped := by
  cases step with
  | line text =>
      rcases console.pipe_line_cases now channel text with sent | ⟨-, -, full⟩
      · exact Nat.le_of_eq (congrArg Channel.dropped sent).symm
      · rw [full]
        exact Nat.le_succ _
  | receive => exact Nat.le_of_eq channel.receive_frame.2.symm
  | deliver => exact Nat.le_of_eq (channel.deliver_frame (takeIn now)).2.symm

theorem dropped_le_pipeAll (console : Console) (now : Timestamp) (channel : Channel Store)
    (steps : List PipeStep) : channel.dropped ≤ (console.pipeAll now channel steps).dropped := by
  induction steps generalizing channel with
  | nil => exact Nat.le_refl _
  | cons step steps inductionHypothesis =>
      exact Nat.le_trans (console.dropped_le_pipe now channel step) (inductionHypothesis _)

theorem bound_pipe (console : Console) (now : Timestamp) (channel : Channel Store)
    (step : PipeStep) : (console.pipe now channel step).bound = channel.bound := by
  cases step with
  | line text =>
      rcases console.pipe_line_cases now channel text with sent | ⟨-, -, full⟩
      · rw [sent]
      · rw [full]
  | receive => exact channel.receive_frame.1
  | deliver => exact (channel.deliver_frame (takeIn now)).1

namespace Piped

variable {now : Timestamp} {direct : Store} {news : Nat} {channel : Channel Store}

/-- Before the first line the direct console and the one with the channel have the same store. -/
theorem create (now : Timestamp) (store : Store) (bound : Nat) :
    Piped now store 0 (Channel.create store bound) where
  isOpen := rfl
  dropped := rfl
  counted := rfl
  store := rfl

/-- To take up news does not change what the store will be. -/
theorem receive (piped : Piped now direct news channel) : Piped now direct news channel.receive := by
  cases pump : channel.pump with
  | waiting =>
      cases inQueue : channel.queue with
      | nil =>
          simp only [Channel.receive, pump, inQueue]
          exact piped
      | cons event queue =>
          have same : channel.pending = event :: queue :=
            (Channel.pending_of_waiting pump).trans inQueue
          have counted := piped.counted
          have store := piped.store
          rw [same] at counted store
          simp only [Channel.receive, pump, inQueue]
          exact ⟨rfl, piped.dropped, counted, store⟩
  | _ =>
      simp only [Channel.receive, pump]
      exact piped

/-- To hand over news changes the store, but not what it will be once all that is pending is recorded. -/
theorem deliver (piped : Piped now direct news channel) :
    Piped now direct news (channel.deliver (takeIn now)) := by
  cases pump : channel.pump with
  | holding event =>
      have counted := piped.counted
      have store := piped.store
      rw [Channel.pending_of_holding pump] at counted store
      simp only [Channel.deliver, pump, takeIn]
      exact {
        isOpen := rfl
        dropped := piped.dropped
        counted := by
          rw [← counted]
          exact Nat.add_right_comm _ _ _
        store := store }
  | _ =>
      simp only [Channel.deliver, pump]
      exact piped

/-- A line that is no order goes before the pending events as well as behind them. -/
theorem line (piped : Piped now direct news channel) (console : Console) {line : String}
    (noOrder : parsesAs isControl line = false)
    (kept : (console.pipe now channel (.line line)).dropped = 0) :
    Piped now (console.settled now direct line) (news + if parsesAs isNews line then 1 else 0)
      (console.pipe now channel (.line line)) := by
  have sent : console.pipe now channel (.line line) =
      { channel with
        queue := channel.queue ++ (news? line).toList
        sink := (console.dispatchLine now channel.sink line).store } := by
    rcases console.pipe_line_cases now channel line with sent | ⟨-, -, full⟩
    · exact sent
    · rw [full] at kept
      exact absurd kept (Nat.succ_ne_zero _)
  have late : channel.pending.foldl (Store.recording now) (adjusted channel.sink (filterCall? line)) =
      adjusted direct (filterCall? line) := by
    rw [← piped.store]
    cases filterCall? line with
    | none => rfl
    | some call => exact Store.foldl_recording_asking ..
  rw [sent]
  exact {
    isOpen := piped.isOpen
    dropped := piped.dropped
    counted := by
      rw [Channel.pending_queue_append, List.length_append, ← Nat.add_assoc, piped.counted,
        ← isSome_news?]
      cases news? line <;> rfl
    store := by
      rw [Channel.pending_queue_append, List.foldl_append, dispatchLine_store _ noOrder, late,
        settled_eq direct noOrder] }

/-- A channel that is wider than the news so far has room for one more. -/
theorem keeps (piped : Piped now direct news channel) (console : Console) {line : String}
    (wide : parsesAs isNews line = true → news < channel.bound) :
    (console.pipe now channel (.line line)).dropped = 0 := by
  rcases console.pipe_line_cases now channel line with sent | ⟨isNews, full, -⟩
  · rw [sent]
    exact piped.dropped
  · refine absurd ⟨piped.isOpen, ?_⟩ full
    calc channel.queue.length
      _ ≤ channel.pending.length := channel.length_queue_le_pending
      _ ≤ news := piped.counted ▸ Nat.le_add_left _ _
      _ < channel.bound := wide isNews

/-! ## Several steps -/

/-- The lines of some steps come to the same store, provided that their news finds room: the channel is
wide enough for all of it, or in the end nothing was dropped. -/
theorem run (piped : Piped now direct news channel) (console : Console) (steps : List PipeStep)
    (noOrder : ∀ line ∈ linesOf steps, parsesAs isControl line = false)
    (roomy : news + (linesOf steps).countP (parsesAs isNews) ≤ channel.bound ∨
      (console.pipeAll now channel steps).dropped = 0) :
    Piped now ((linesOf steps).foldl (console.settled now) direct)
      (news + (linesOf steps).countP (parsesAs isNews)) (console.pipeAll now channel steps) := by
  induction steps generalizing direct news channel with
  | nil => exact piped
  | cons step steps inductionHypothesis =>
      have bound := console.bound_pipe now channel step
      cases step with
      | receive => exact inductionHypothesis piped.receive noOrder (bound ▸ roomy)
      | deliver => exact inductionHypothesis piped.deliver noOrder (bound ▸ roomy)
      | line text =>
          have split : linesOf (.line text :: steps) = text :: linesOf steps := rfl
          obtain ⟨noOrderNow, noOrderLater⟩ := List.forall_mem_cons.mp noOrder
          rw [split, List.countP_cons] at roomy ⊢
          rw [Nat.add_comm ((linesOf steps).countP _), ← Nat.add_assoc] at roomy ⊢
          have kept : (console.pipe now channel (.line text)).dropped = 0 := by
            rcases roomy with wide | kept
            · apply piped.keeps console
              intro isNews
              rw [if_pos isNews] at wide
              omega
            · rw [← Nat.le_zero, ← kept]
              exact console.dropped_le_pipeAll now _ steps
          exact inductionHypothesis (piped.line console noOrderNow kept) noOrderLater
            (bound ▸ roomy)

/-! ## The end -/

/-- However long the pump goes on, the store that all pending news leads to stays the same. -/
theorem pumpUpTo (piped : Piped now direct news channel) (count : Nat) :
    Piped now direct news (Channel.pumpUpTo (takeIn now) count channel) := by
  induction count generalizing channel with
  | zero => exact piped.deliver
  | succ count inductionHypothesis => exact inductionHypothesis piped.deliver.receive

/-- A shutdown lets the pump hand over all that is pending. -/
theorem shutdown (piped : Piped now direct news channel) :
    (channel.shutdown (takeIn now)).1 = news ∧
      (channel.shutdown (takeIn now)).2.dropped = 0 ∧
      (channel.shutdown (takeIn now)).2.sink = direct := by
  have drained : Piped now direct news (channel.drain (takeIn now)) := piped.pumpUpTo _
  have rests : Channel.Rests (channel.drain (takeIn now)) :=
    Channel.rests_pumpUpTo piped.isOpen _ (Nat.le_refl _)
  cases rests with
  | broken pump => nomatch drained.isOpen.symm.trans (Channel.isOpen_of_broken pump)
  | idle pump queue =>
      have nothing : (channel.drain (takeIn now)).pending = [] :=
        (Channel.pending_of_waiting pump).trans queue
      have counted := drained.counted
      have store := drained.store
      rw [nothing] at counted store
      simp only [Channel.shutdown, Channel.close, Channel.finish, pump, queue]
      exact ⟨counted, drained.dropped, store⟩

end Piped

/-! ## Both consoles -/

/-- The news of a line goes straight to the store as the line has it, or first through a channel that
drops none of it.  Whenever the pump takes its steps, and as long as no line orders the store about,
both consoles leave the same store with the same records, counters and filter; and the shutdown tells
how many lines made up news. -/
theorem piped_as_direct (console : Console) (now : Timestamp) (store : Store) (bound : Nat)
    (steps : List PipeStep)
    (noOrder : ∀ line ∈ linesOf steps, parsesAs isControl line = false)
    (roomy : (linesOf steps).countP (parsesAs isNews) ≤ max bound 1 ∨
      (console.pipeAll now (Channel.create store bound) steps).dropped = 0) :
    let result := (console.pipeAll now (Channel.create store bound) steps).shutdown (takeIn now)
    result.1 = (linesOf steps).countP (parsesAs isNews) ∧
      result.2.dropped = 0 ∧
      result.2.sink =
        (linesOf steps).foldl (fun store line => (console.executeLine now store line).store) store ∧
      (∀ store line pid parent name, Command.parse line = .ok (.fork pid parent name) →
        (console.executeLine now store line).store = (store.start now pid parent name).store) ∧
      ∀ store line pid code, Command.parse line = .ok (.exit pid code) →
        (console.executeLine now store line).store = (store.exit now pid code).store := by
  intro result
  have piped := (Piped.create now store bound).run console steps noOrder (by rwa [Nat.zero_add])
  obtain ⟨returned, dropped, sink⟩ := piped.shutdown
  refine ⟨returned.trans (Nat.zero_add _), dropped, sink, ?_, ?_⟩
  · intro store line pid parent name parsed
    rw [executeLine, dispatchLine, parsed, ← Store.recording_start]
    rfl
  · intro store line pid code parsed
    rw [executeLine, dispatchLine, parsed]
    rfl

/-- The start waits in the channel while the filter is changed, the exit until the shutdown, and a line
that is refused does nothing. -/
theorem piped_as_direct_of_late_pump :
    let console := create 10
    let store := (Store.create { capacity := 2 } 5).store
    let steps : List PipeStep :=
      [.line "fork 7 1 sh", .receive, .line "minlife 3", .deliver, .line "exit 7 4", .line "fork 7"]
    let channel := console.pipeAll 5 (Channel.create store 1) steps
    let result := channel.shutdown (takeIn 5)
    (∀ line ∈ linesOf steps, parsesAs isControl line = false) ∧
      channel.dropped = 0 ∧ channel.pending.length = 1 ∧
      result.1 = 2 ∧ result.2.sink.filter.minLifetime = some 3 ∧
      (result.2.sink.list 5).records.map Record.exitCode = [4] := by
  intro console store steps channel result
  have noOrder : ∀ line ∈ linesOf steps, parsesAs isControl line = false := by decide
  have dropped : channel.dropped = 0 := by decide
  obtain ⟨returned, -, sink, -, -⟩ := piped_as_direct console 5 store 1 steps noOrder (.inr dropped)
  refine ⟨noOrder, dropped, by decide, returned.trans (by decide), ?_, ?_⟩
  · rw [sink]
    decide +kernel
  · rw [sink]
    decide +kernel

end Console

end ProcessWatch
