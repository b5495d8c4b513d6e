/-
Module: ProcessWatch.Proofs.Channel.Delivery
Purpose: What a channel accepts reaches the sink once and in order, up to a breakdown of the sink, and
  what it does not accept is counted.
Trusted boundary: the queue of ProcessWatch.Channel; every step of a sender or of the pump is atomic
Main exports: Channel.Action, Channel.Attempt, Channel.Traffic, Channel.Traffic.run, Channel.Carries,
  Channel.accepted_delivered

Senders and the pump make their steps in any order; a list of actions is one such order.  The sends
that find the sink broken down but the queue not yet gone come before the step with which the pump
hands over the fatal event.
-/
import ProcessWatch.Channel

namespace ProcessWatch

namespace Channel

/-- A step of a sender or of the pump. -/
inductive Action (ι : Type) where
  | send (sender : ι) (event : Event)
  | receive
  | deliver
deriving DecidableEq, Repr

/-- The send that an action is. -/
def Action.sent? {ι : Type} : Action ι → Option (ι × Event)
  | .send sender event => some (sender, event)
  | _ => none

/-- The sends among some actions. -/
def sends {ι : Type} (actions : List (Action ι)) : List (ι × Event) :=
  actions.filterMap Action.sent?

theorem sends_cons {ι : Type} (action : Action ι) (actions : List (Action ι)) :
    sends (action :: actions) = action.sent?.toList ++ sends actions := by
  cases action <;> rfl

/-- A send, and what it returned. -/
structure Attempt (ι : Type) where
  sender : ι
  event : Event
  accepted : Bool
deriving DecidableEq, Repr

/-- A channel in use, and the sends so far. -/
structure Traffic (ι σ : Type) where
  channel : Channel σ
  attempts : List (Attempt ι) := []

namespace Traffic

variable {ι σ : Type}

/-- A channel that nobody has used. -/
def create (sink : σ) (bound : Nat) : Traffic ι σ where
  channel := Channel.create sink bound

/-- Take an action. -/
def act (accept : σ → Event → Option σ) (traffic : Traffic ι σ) : Action ι → Traffic ι σ
  | .send sender event =>
      let (accepted, channel) := traffic.channel.send event
      { channel := channel, attempts := traffic.attempts ++ [⟨sender, event, accepted⟩] }
  | .receive => { traffic with channel := traffic.channel.receive }
  | .deliver => { traffic with channel := traffic.channel.deliver accept }

/-- Take some actions one after the other. -/
def run (accept : σ → Event → Option σ) (traffic : Traffic ι σ) (actions : List (Action ι)) :
    Traffic ι σ :=
  actions.foldl (act accept) traffic

/-- The events of the sends that returned true, in their order. -/
def accepted (traffic : Traffic ι σ) : List Event :=
  (traffic.attempts.filter Attempt.accepted).map Attempt.event

/-- Those of one sender. -/
def acceptedFrom [DecidableEq ι] (traffic : Traffic ι σ) (sender : ι) : List Event :=
  (traffic.attempts.filter fun attempt => attempt.accepted && attempt.sender = sender).map
    Attempt.event

end Traffic

variable {ι σ : Type} {accept : σ → Event → Option σ} {start : σ} {accepted : List Event}
  {channel : Channel σ}

/-! ## Where the accepted events are -/

/-- The sink has taken these events, and they are counted. -/
structure Took (accept : σ → Event → Option σ) (start : σ) (taken : List Event)
    (channel : Channel σ) : Prop where
  sink : taken.foldlM accept start = some channel.sink
  delivered : channel.delivered = taken.length

/-- The accepted events are those that the sink has taken, the one that the pump holds and those in
the queue; or the sink has broken down at one of them, and the later ones are gone. -/
inductive Carries (accept : σ → Event → Option σ) (start : σ) (accepted : List Event)
    (channel : Channel σ) : Prop where
  | waiting (taken : List Event) (took : Took accept start taken channel)
      (pump : channel.pump = .waiting) (split : accepted = taken ++ channel.queue)
  | holding (taken : List Event) (event : Event) (took : Took accept start taken channel)
      (pump : channel.pump = .holding event) (split : accepted = taken ++ event :: channel.queue)
  | broken (taken : List Event) (event : Event) (lost : List Event)
      (took : Took accept start taken channel) (pump : channel.pump = .broken)
      (fatal : accept channel.sink event = none) (split : accepted = taken ++ event :: lost)

theorem isOpen_of_broken (pump : channel.pump = .broken) : channel.isOpen = false := by
  simp only [Channel.isOpen, pump]

/-- A pump that has come to its end takes up no event. -/
theorem receive_of_ended (ended : channel.isOpen = false) : channel.receive = channel := by
  cases pump : channel.pump with
  | waiting => simp [Channel.isOpen, pump] at ended
  | _ => simp only [receive, pump]

theorem deliver_of_ended (ended : channel.isOpen = false) : channel.deliver accept = channel := by
  cases pump : channel.pump with
  | holding event => simp [Channel.isOpen, pump] at ended
  | _ => simp only [deliver, pump]

/-- A sink that breaks down at an event does not take a list with this event. -/
theorem Took.foldlM_eq_none {taken : List Event} {event : Event}
    (took : Took accept start taken channel) (fatal : accept channel.sink event = none)
    (lost : List Event) : (taken ++ event :: lost).foldlM accept start = none := by
  simp [List.foldlM_append, took.sink, fatal]

namespace Carries

/-- A new channel carries nothing. -/
theorem create (sink : σ) (bound : Nat) : Carries accept sink [] (Channel.create sink bound) :=
  .waiting [] ⟨rfl, rfl⟩ rfl rfl

/-- An event that is accepted goes to the end of what is carried. -/
theorem push (carries : Carries accept start accepted channel) (isOpen : channel.isOpen = true)
    (event : Event) :
    Carries accept start (accepted ++ [event])
      { channel with queue := channel.queue ++ [event] } := by
  cases carries with
  | waiting taken took pump split =>
      exact .waiting taken ⟨took.sink, took.delivered⟩ pump (by simp [split])
  | holding taken held took pump split =>
      exact .holding taken held ⟨took.sink, took.delivered⟩ pump (by simp [split])
  | broken _ _ _ _ pump _ _ => nomatch isOpen.symm.trans (isOpen_of_broken pump)

/-- To drop an event changes nothing about what is carried. -/
theorem refuse (carries : Carries accept start accepted channel) :
    Carries accept start accepted { channel with dropped := channel.dropped + 1 } := by
  cases carries with
  | waiting taken took pump split =>
      exact .waiting taken ⟨took.sink, took.delivered⟩ pump split
  | holding taken held took pump split =>
      exact .holding taken held ⟨took.sink, took.delivered⟩ pump split
  | broken taken event lost took pump fatal split =>
      exact .broken taken event lost ⟨took.sink, took.delivered⟩ pump fatal split

/-- To take up an event moves it from the queue to the hands of the pump. -/
theorem receive (carries : Carries accept start accepted channel) :
    Carries accept start accepted channel.receive := by
  cases carries with
  | waiting taken took pump split =>
      cases inQueue : channel.queue with
      | nil =>
          simp only [Channel.receive, pump, inQueue]
          exact .waiting taken took pump split
      | cons event queue =>
          simp only [Channel.receive, pump, inQueue]
          exact .holding taken event ⟨took.sink, took.delivered⟩ rfl (by rw [split, inQueue])
  | holding taken event took pump split =>
      simp only [Channel.receive, pump]
      exact .holding taken event took pump split
  | broken taken event lost took pump fatal split =>
      rw [receive_of_ended (isOpen_of_broken pump)]
      exact .broken taken event lost took pump fatal split

/-- To hand over an event moves it to the sink, or breaks the sink down and loses all that was behind
it. -/
theorem deliver (carries : Carries accept start accepted channel) :
    Carries accept start accepted (channel.deliver accept) := by
  cases carries with
  | waiting taken took pump split =>
      simp only [Channel.deliver, pump]
      exact .waiting taken took pump split
  | holding taken event took pump split =>
      cases outcome : accept channel.sink event with
      | some sink =>
          simp only [Channel.deliver, pump, outcome]
          have tookOneMore : (taken ++ [event]).foldlM accept start = some sink := by
            simp [List.foldlM_append, took.sink, outcome]
          exact .waiting (taken ++ [event]) ⟨tookOneMore, by simp [took.delivered]⟩ rfl
            (by simp [split])
      | none =>
          simp only [Channel.deliver, pump, outcome]
          exact .broken taken event channel.queue ⟨took.sink, took.delivered⟩ rfl outcome split
  | broken taken event lost took pump fatal split =>
      rw [deliver_of_ended (isOpen_of_broken pump)]
      exact .broken taken event lost took pump fatal split

/-- However long the pump goes on, what was accepted is accounted for. -/
theorem pumpUpTo (carries : Carries accept start accepted channel) (count : Nat) :
    Carries accept start accepted (Channel.pumpUpTo accept count channel) := by
  induction count generalizing channel with
  | zero => exact carries.deliver
  | succ count inductionHypothesis => exact inductionHypothesis carries.deliver.receive

end Carries

/-! ## The pump comes to an end -/

/-- Nothing is left to do for the pump until something is sent. -/
inductive Rests (channel : Channel σ) : Prop where
  | idle (pump : channel.pump = .waiting) (queue : channel.queue = [])
  | broken (pump : channel.pump = .broken)

theorem pumpUpTo_of_ended (ended : channel.isOpen = false) (count : Nat) :
    pumpUpTo accept count channel = channel := by
  induction count with
  | zero => exact deliver_of_ended ended
  | succ count inductionHypothesis =>
      rw [pumpUpTo, deliver_of_ended ended, receive_of_ended ended]
      exact inductionHypothesis

/-- A pump that runs hands over what it holds, or ends. -/
theorem deliver_cases (accept : σ → Event → Option σ) (isOpen : channel.isOpen = true) :
    ((channel.deliver accept).pump = .waiting ∧
        (channel.deliver accept).queue = channel.queue) ∨
      (channel.deliver accept).pump = .broken := by
  cases pump : channel.pump with
  | waiting =>
      left
      simp only [deliver, pump, and_self]
  | holding event =>
      cases outcome : accept channel.sink event with
      | some sink =>
          left
          simp only [deliver, pump, outcome, and_self]
      | none =>
          right
          simp only [deliver, pump, outcome]
  | _ => simp [Channel.isOpen, pump] at isOpen

/-- A pump that runs for as many events as are in the queue leaves nothing behind. -/
theorem rests_pumpUpTo (isOpen : channel.isOpen = true) (count : Nat)
    (enough : channel.queue.length ≤ count) : Rests (pumpUpTo accept count channel) := by
  induction count generalizing channel with
  | zero =>
      have empty : channel.queue = [] := List.length_eq_zero_iff.1 (Nat.le_zero.1 enough)
      rcases deliver_cases accept isOpen with ⟨pump, queue⟩ | pump
      · exact .idle pump (queue.trans empty)
      · exact .broken pump
  | succ count inductionHypothesis =>
      rw [pumpUpTo]
      rcases deliver_cases accept isOpen with ⟨pump, queue⟩ | pump
      · cases inQueue : (channel.deliver accept).queue with
        | nil =>
            apply inductionHypothesis
            · simp only [receive, pump, inQueue, Channel.isOpen]
            · simp [receive, pump, inQueue]
        | cons event rest =>
            have shorter : rest.length ≤ count := by
              rw [← queue, inQueue] at enough
              exact Nat.le_of_succ_le_succ enough
            apply inductionHypothesis
            · simp only [receive, pump, inQueue, Channel.isOpen]
            · simpa only [receive, pump, inQueue] using shorter
      · have ended := isOpen_of_broken pump
        rw [receive_of_ended ended, pumpUpTo_of_ended ended]
        exact .broken pump

/-- A drained channel is at rest: nothing is on its way, or the sink has broken down. -/
theorem Carries.rests (carries : Carries accept start accepted channel) :
    Rests (channel.drain accept) := by
  cases carries with
  | waiting taken took pump split =>
      exact rests_pumpUpTo (by simp only [Channel.isOpen, pump]) _ (Nat.le_refl _)
  | holding taken event took pump split =>
      exact rests_pumpUpTo (by simp only [Channel.isOpen, pump]) _ (Nat.le_refl _)
  | broken taken event lost took pump fatal split =>
      rw [drain, pumpUpTo_of_ended (isOpen_of_broken pump)]
      exact .broken pump

/-- What a shutdown comes to: the number of all accepted events, which the sink has taken, or nothing,
after the sink has broken down at one of them. -/
inductive Ends (accept : σ → Event → Option σ) (start : σ) (accepted : List Event)
    (result : Nat × Channel σ) : Prop where
  | complete (took : Took accept start accepted result.2) (pump : result.2.pump = .finished)
      (returned : result.1 = accepted.length)
  | broken (taken : List Event) (event : Event) (lost : List Event)
      (took : Took accept start taken result.2) (pump : result.2.pump = .broken)
      (fatal : accept result.2.sink event = none) (split : accepted = taken ++ event :: lost)
      (returned : result.1 = 0)

/-- After the channel is shut down the sink has got all that was accepted, or broke down on the way. -/
theorem Carries.ends (carries : Carries accept start accepted channel) :
    Ends accept start accepted (channel.shutdown accept) := by
  have drained : Carries accept start accepted (channel.drain accept) := carries.pumpUpTo _
  cases carries.rests with
  | idle pump queue =>
      simp only [shutdown, close, finish, pump, queue]
      cases drained with
      | waiting taken took _ split =>
          rw [queue, List.append_nil] at split
          rw [split]
          exact .complete ⟨took.sink, took.delivered⟩ rfl took.delivered
      | holding _ _ _ holds _ => nomatch pump.symm.trans holds
      | broken _ _ _ _ breaks _ _ => nomatch pump.symm.trans breaks
  | broken pump =>
      simp only [shutdown, close, finish, pump]
      cases drained with
      | waiting _ _ waits _ => nomatch pump.symm.trans waits
      | holding _ _ _ holds _ => nomatch pump.symm.trans holds
      | broken taken event lost took _ fatal split =>
          exact .broken taken event lost took pump fatal split rfl

/-! ## Sends in any order with the pump -/

/-- A send finds room and a pump, or is counted. -/
theorem send_cases (channel : Channel σ) (event : Event) :
    (channel.isOpen = true ∧ channel.queue.length < channel.bound ∧
        channel.send event = (true, { channel with queue := channel.queue ++ [event] })) ∨
      (¬(channel.isOpen = true ∧ channel.queue.length < channel.bound) ∧
        channel.send event = (false, { channel with dropped := channel.dropped + 1 })) := by
  by_cases room : channel.isOpen = true ∧ channel.queue.length < channel.bound
  · left
    refine ⟨room.1, room.2, ?_⟩
    rw [send, if_pos room]
  · right
    refine ⟨room, ?_⟩
    rw [send, if_neg room]

/-- A send to a channel that has come to its end is refused and counted. -/
theorem send_of_ended (ended : channel.isOpen = false) (event : Event) :
    channel.send event = (false, { channel with dropped := channel.dropped + 1 }) := by
  rw [send, if_neg (by simp [ended])]

/-- Taking up an event counts no drop. -/
theorem receive_frame (channel : Channel σ) :
    channel.receive.bound = channel.bound ∧ channel.receive.dropped = channel.dropped := by
  rw [receive]
  split
  · exact ⟨rfl, rfl⟩
  · exact ⟨rfl, rfl⟩

theorem deliver_frame (accept : σ → Event → Option σ) (channel : Channel σ) :
    (channel.deliver accept).bound = channel.bound ∧
      (channel.deliver accept).dropped = channel.dropped := by
  rw [deliver]
  split
  · split
    · exact ⟨rfl, rfl⟩
    · exact ⟨rfl, rfl⟩
  · exact ⟨rfl, rfl⟩

namespace Traffic

/-- Accepted is what was accepted before and, if the last attempt was, the event of that. -/
theorem accepted_append (attempts : List (Attempt ι)) (attempt : Attempt ι) (channel : Channel σ) :
    (⟨channel, attempts ++ [attempt]⟩ : Traffic ι σ).accepted =
      (⟨channel, attempts⟩ : Traffic ι σ).accepted ++
        if attempt.accepted then [attempt.event] else [] := by
  cases returned : attempt.accepted <;> simp [accepted, returned]

/-- What is accepted of the traffic is carried, and the rest is counted. -/
structure Accounted (accept : σ → Event → Option σ) (start : σ) (bound : Nat)
    (traffic : Traffic ι σ) : Prop where
  carries : Carries accept start traffic.accepted traffic.channel
  bound : traffic.channel.bound = max bound 1
  counted : traffic.accepted.length + traffic.channel.dropped = traffic.attempts.length

namespace Accounted

variable {bound : Nat} {traffic : Traffic ι σ}

/-- Before anything is sent nothing is accepted and nothing is dropped. -/
theorem create (accept : σ → Event → Option σ) (sink : σ) (bound : Nat) :
    Accounted accept sink bound (Traffic.create (ι := ι) sink bound) where
  carries := .create sink bound
  bound := rfl
  counted := rfl

/-- A send is accepted or counted as dropped, and the account holds either way. -/
theorem send (accounted : Accounted accept start bound traffic) (sender : ι) (event : Event) :
    Accounted accept start bound (traffic.act accept (.send sender event)) := by
  have counted := accounted.counted
  rcases traffic.channel.send_cases event with ⟨isOpen, _, sends⟩ | ⟨_, sends⟩
  · have grows := accepted_append traffic.attempts ⟨sender, event, true⟩
      { traffic.channel with queue := traffic.channel.queue ++ [event] }
    simp only [Traffic.act, sends]
    exact {
      carries := by
        rw [grows]
        exact accounted.carries.push isOpen event
      bound := accounted.bound
      counted := by
        rw [grows, List.length_append, List.length_append, List.length_singleton, ← counted]
        exact Nat.add_right_comm _ _ _ }
  · have same := accepted_append traffic.attempts ⟨sender, event, false⟩
      { traffic.channel with dropped := traffic.channel.dropped + 1 }
    simp only [Bool.false_eq_true, if_false, List.append_nil] at same
    simp only [Traffic.act, sends]
    exact {
      carries := by
        rw [same]
        exact accounted.carries.refuse
      bound := accounted.bound
      counted := by
        rw [same, List.length_append, List.length_singleton, ← counted]
        rfl }

/-- Every action keeps the account, one of the pump as well as one of a sender. -/
theorem act (accounted : Accounted accept start bound traffic) (action : Action ι) :
    Accounted accept start bound (traffic.act accept action) := by
  cases action with
  | send sender event => exact accounted.send sender event
  | receive =>
      have frame := traffic.channel.receive_frame
      exact {
        carries := accounted.carries.receive
        bound := frame.1.trans accounted.bound
        counted := (congrArg _ frame.2).trans accounted.counted }
  | deliver =>
      have frame := traffic.channel.deliver_frame accept
      exact {
        carries := accounted.carries.deliver
        bound := frame.1.trans accounted.bound
        counted := (congrArg _ frame.2).trans accounted.counted }

/-- So do many actions in any order. -/
theorem run (accounted : Accounted accept start bound traffic) (actions : List (Action ι)) :
    Accounted accept start bound (traffic.run accept actions) := by
  induction actions generalizing traffic with
  | nil => exact accounted
  | cons action actions inductionHypothesis => exact inductionHypothesis (accounted.act action)

end Accounted

/-- The sends on record. -/
def sent (traffic : Traffic ι σ) : List (ι × Event) :=
  traffic.attempts.map fun attempt => (attempt.sender, attempt.event)

theorem sent_act (accept : σ → Event → Option σ) (traffic : Traffic ι σ) (action : Action ι) :
    (traffic.act accept action).sent = traffic.sent ++ action.sent?.toList := by
  cases action with
  | send sender event => simp [act, sent, Action.sent?]
  | receive => exact (List.append_nil _).symm
  | deliver => exact (List.append_nil _).symm

/-- Every send is on record, in the order of the sends. -/
theorem sent_run (accept : σ → Event → Option σ) (traffic : Traffic ι σ)
    (actions : List (Action ι)) :
    (traffic.run accept actions).sent = traffic.sent ++ sends actions := by
  induction actions generalizing traffic with
  | nil => exact (List.append_nil _).symm
  | cons action actions inductionHypothesis =>
      rw [sends_cons, ← List.append_assoc, ← sent_act accept]
      exact inductionHypothesis _

/-- What is accepted from a sender it has sent, in this order. -/
theorem acceptedFrom_sublist [DecidableEq ι] (traffic : Traffic ι σ) (sender : ι) :
    (traffic.acceptedFrom sender).Sublist
      ((traffic.sent.filter fun sent => sent.1 = sender).map Prod.snd) := by
  have split : traffic.attempts.filter (fun attempt => attempt.accepted && attempt.sender = sender) =
      (traffic.attempts.filter fun attempt => attempt.sender = sender).filter Attempt.accepted :=
    (List.filter_filter ..).symm
  rw [acceptedFrom, split, sent, List.filter_map, List.map_map]
  exact (List.filter_sublist).map Attempt.event

/-- Once the pump has come to its end every send is refused and counted. -/
theorem act_of_ended (accept : σ → Event → Option σ) {traffic : Traffic ι σ}
    (ended : traffic.channel.isOpen = false) (action : Action ι) :
    (traffic.act accept action).channel.isOpen = false ∧
      (traffic.act accept action).attempts =
        traffic.attempts ++ action.sent?.toList.map (fun sent => ⟨sent.1, sent.2, false⟩) ∧
      (traffic.act accept action).channel.dropped =
        traffic.channel.dropped + action.sent?.toList.length := by
  cases action with
  | send sender event =>
      simp only [act, send_of_ended ended]
      exact ⟨ended, rfl, rfl⟩
  | receive =>
      simp only [act, receive_of_ended ended]
      exact ⟨ended, (List.append_nil _).symm, rfl⟩
  | deliver =>
      simp only [act, deliver_of_ended ended]
      exact ⟨ended, (List.append_nil _).symm, rfl⟩

/-- Without a pump every send fails. -/
theorem run_of_ended (accept : σ → Event → Option σ) {traffic : Traffic ι σ}
    (ended : traffic.channel.isOpen = false) (actions : List (Action ι)) :
    (traffic.run accept actions).attempts =
        traffic.attempts ++ (sends actions).map (fun sent => ⟨sent.1, sent.2, false⟩) ∧
      (traffic.run accept actions).channel.dropped =
        traffic.channel.dropped + (sends actions).length := by
  induction actions generalizing traffic with
  | nil => exact ⟨(List.append_nil _).symm, rfl⟩
  | cons action actions inductionHypothesis =>
      rcases act_of_ended accept ended action with ⟨still, attempts, dropped⟩
      rw [sends_cons, List.map_append, ← List.append_assoc, ← attempts, List.length_append,
        ← Nat.add_assoc, ← dropped]
      exact inductionHypothesis still

end Traffic

/-! ## The promise of the channel -/

/-- A sink that goes through a list of events breaks down at one of them at most. -/
theorem breakdown_unique {taken fine lost rest : List Event} {event worst : Event}
    {before state : σ} (taking : taken.foldlM accept start = some before)
    (fatal : accept before event = none) (folding : fine.foldlM accept start = some state)
    (fails : accept state worst = none) (same : taken ++ event :: lost = fine ++ worst :: rest) :
    taken = fine := by
  induction taken generalizing start fine with
  | nil =>
      cases fine with
      | nil => rfl
      | cons first others =>
          rcases List.cons.inj same with ⟨rfl, _⟩
          cases taking
          simp [fatal] at folding
  | cons head tail inductionHypothesis =>
      cases fine with
      | nil =>
          rcases List.cons.inj same with ⟨rfl, _⟩
          cases folding
          simp [fails] at taking
      | cons first others =>
          rcases List.cons.inj same with ⟨rfl, sameRest⟩
          cases outcome : accept start head with
          | none => simp [outcome] at taking
          | some next =>
              simp only [List.foldlM_cons, outcome, Option.bind_eq_bind, Option.bind_some]
                at taking folding
              exact congrArg _ (inductionHypothesis taking folding sameRest)

namespace Ends

variable {result : Nat × Channel σ}

/-- If the sink can take all accepted events, it has taken them. -/
theorem of_folds (ends : Ends accept start accepted result) {final : σ}
    (folds : accepted.foldlM accept start = some final) :
    result.1 = accepted.length ∧ result.2.delivered = accepted.length ∧
      result.2.sink = final := by
  cases ends with
  | complete took _ returned =>
      have sinkIs := took.sink.symm.trans folds
      exact ⟨returned, took.delivered, Option.some.inj sinkIs⟩
  | broken taken event lost took _ fatal split _ =>
      rw [split, took.foldlM_eq_none fatal lost] at folds
      cases folds

/-- A sink that never breaks down has taken all accepted events. -/
theorem of_total (ends : Ends accept start accepted result)
    (total : ∀ state event, (accept state event).isSome = true) :
    accepted.foldlM accept start = some result.2.sink := by
  cases ends with
  | complete took _ _ => exact took.sink
  | broken _ event _ _ _ fatal _ _ =>
      have taken := total result.2.sink event
      rw [fatal] at taken
      cases taken

/-- If the sink breaks down at an accepted event, it has taken those before. -/
theorem of_breakdown (ends : Ends accept start accepted result) {count : Nat} {state : σ}
    {event : Event} (folds : (accepted.take count).foldlM accept start = some state)
    (inPlace : accepted[count]? = some event) (fails : accept state event = none) :
    result.1 = 0 ∧ result.2.delivered = count ∧ result.2.sink = state ∧
      result.2.isOpen = false := by
  rcases List.getElem?_eq_some_iff.1 inPlace with ⟨inRange, eventIs⟩
  have split : accepted = accepted.take count ++ event :: accepted.drop (count + 1) := by
    rw [← eventIs, ← List.drop_eq_getElem_cons inRange, List.take_append_drop]
  cases ends with
  | complete took _ _ =>
      have folding := took.sink
      rw [split] at folding
      simp [List.foldlM_append, folds, fails] at folding
  | broken taken fatalEvent lost took pump fatal splitThere returned =>
      have taking : taken = accepted.take count :=
        breakdown_unique took.sink fatal folds fails (splitThere.symm.trans split)
      have delivered := took.delivered
      rw [taking, List.length_take, Nat.min_eq_left (Nat.le_of_lt inRange)] at delivered
      have sinkIs := took.sink.symm.trans ((congrArg _ taking).trans folds)
      exact ⟨returned, delivered, Option.some.inj sinkIs, isOpen_of_broken pump⟩

end Ends

/-- Whatever the order of the steps, every send is accepted or counted.  A shutdown returns the number
of accepted events, all of which the sink has taken in their order; or, if the sink breaks down at one
of them, it has taken exactly those before, and nothing is accepted any more. -/
theorem accepted_delivered [DecidableEq ι] (accept : σ → Event → Option σ) (sink : σ) (bound : Nat)
    (actions : List (Action ι)) :
    let traffic := (Traffic.create sink bound).run accept actions
    let result := traffic.channel.shutdown accept
    (traffic.sent = sends actions ∧
        ∀ event, (traffic.channel.send event).1 = true ↔
          traffic.channel.isOpen = true ∧ traffic.channel.queue.length < max bound 1) ∧
      traffic.accepted.length + traffic.channel.dropped = (sends actions).length ∧
      (∀ sender, (traffic.acceptedFrom sender).Sublist
        (((sends actions).filter fun sent => sent.1 = sender).map Prod.snd)) ∧
      (∀ final, traffic.accepted.foldlM accept sink = some final →
        result.1 = traffic.accepted.length ∧ result.2.delivered = traffic.accepted.length ∧
          result.2.sink = final) ∧
      ((∀ state event, (accept state event).isSome = true) →
        traffic.accepted.foldlM accept sink = some result.2.sink) ∧
      (∀ count state event, (traffic.accepted.take count).foldlM accept sink = some state →
        traffic.accepted[count]? = some event → accept state event = none →
        result.1 = 0 ∧ result.2.delivered = count ∧ result.2.sink = state ∧
          result.2.isOpen = false) ∧
      ∀ ended : Traffic ι σ, ended.channel.isOpen = false → ∀ more,
        (ended.run accept more).attempts =
            ended.attempts ++ (sends more).map (fun sent => ⟨sent.1, sent.2, false⟩) ∧
          (ended.run accept more).channel.dropped =
            ended.channel.dropped + (sends more).length := by
  intro traffic result
  have accounted : traffic.Accounted accept sink bound :=
    (Traffic.Accounted.create accept sink bound).run actions
  have recorded : traffic.sent = sends actions := Traffic.sent_run accept _ actions
  refine ⟨⟨recorded, ?_⟩, ?_, ?_, ?_, ?_, ?_, ?_⟩
  · intro event
    rw [← accounted.bound]
    rcases traffic.channel.send_cases event with ⟨isOpen, room, sends⟩ | ⟨noRoom, sends⟩
    · rw [sends]
      exact iff_of_true rfl ⟨isOpen, room⟩
    · rw [sends]
      exact iff_of_false Bool.false_ne_true noRoom
  · rw [accounted.counted, ← recorded]
    exact (List.length_map _).symm
  · rw [← recorded]
    exact traffic.acceptedFrom_sublist
  · intro final folds
    exact accounted.carries.ends.of_folds folds
  · exact accounted.carries.ends.of_total
  · intro count state event folds inPlace fails
    exact accounted.carries.ends.of_breakdown folds inPlace fails
  · intro ended closed more
    exact Traffic.run_of_ended accept closed more

/-- A sink that takes notes gets both accepted events; one that breaks down at the second gets the
first, and then nothing is accepted any more. -/
theorem accepted_delivered_of_two_senders :
    let first : Event := .exit 1 0 {}
    let second : Event := .exit 2 0 {}
    let third : Event := .exit 3 0 {}
    let notes : List Event → Event → Option (List Event) := fun taken event => some (taken ++ [event])
    let fragile : List Event → Event → Option (List Event) := fun taken event =>
      if event = second then none else some (taken ++ [event])
    let actions : List (Action Bool) :=
      [.send false first, .receive, .send true second, .send false third]
    let noted := ((Traffic.create [] 0).run notes actions).channel.shutdown notes
    let traffic := (Traffic.create [] 0).run fragile actions
    let result := traffic.channel.shutdown fragile
    (noted.1 = 2 ∧ noted.2.sink = [first, second]) ∧
      traffic.accepted.length + traffic.channel.dropped = 3 ∧
      (result.1 = 0 ∧ result.2.delivered = 1 ∧ result.2.sink = [first]) ∧
      ((Traffic.mk result.2 traffic.attempts).run fragile [.send true first]).channel.dropped =
        result.2.dropped + 1 := by
  intro first second third notes fragile actions noted traffic result
  rcases accepted_delivered notes [] 0 actions with ⟨_, _, _, complete, total, _⟩
  rcases accepted_delivered fragile [] 0 actions with ⟨_, counted, _, _, _, partly, later⟩
  have whole := complete noted.2.sink (total fun _ _ => rfl)
  have part := partly 1 [first] second rfl rfl rfl
  have refused := later (Traffic.mk result.2 traffic.attempts) part.2.2.2 [.send true first]
  exact ⟨⟨whole.1, rfl⟩, counted, ⟨part.1, part.2.1, part.2.2.1⟩, refused.2⟩

end Channel

end ProcessWatch
