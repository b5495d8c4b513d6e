/-
Module: ProcessWatch.Channel
Purpose: A bounded queue of events between those who send them and the pump that hands them to a
  sink, one event at a time.
Trusted boundary: a queue hands over what it has accepted once, in that order, and to one receiver
Main exports: Channel, Channel.send, Channel.receive, Channel.deliver, Channel.drain,
  Channel.relayAll, Channel.finish, Channel.shutdown

A sender never waits: an event that finds no room, or no pump, is dropped and counted.  The sink is
any function from a state and an event to the next state; it breaks down where it has no value, and
the pump with it.
-/
import ProcessWatch.Event

namespace ProcessWatch

/-- Where the pump stands. -/
inductive Pump where
  /-- It is ready to take an event. -/
  | waiting
  /-- It has taken an event and not handed it over yet. -/
  | holding (event : Event)
  /-- It has handed over everything after the last sender left. -/
  | finished
  /-- The sink broke down while it took an event. -/
  | broken
deriving DecidableEq, Repr, Inhabited

/-- A queue of events with its pump and the state of the sink behind it. -/
structure Channel (σ : Type) where
  bound : Nat
  queue : List Event := []
  /-- Events that were sent and not accepted. -/
  dropped : Nat := 0
  pump : Pump := .waiting
  /-- Events that were handed over completely. -/
  delivered : Nat := 0
  sink : σ
deriving Repr

namespace Channel

variable {σ : Type}

/-- How many events a channel holds if nothing else is asked for. -/
def defaultBound : Nat := 4096

/-- An empty channel in front of a sink; it holds at least one event. -/
def create (sink : σ) (bound : Nat := defaultBound) : Channel σ where
  bound := max bound 1
  sink := sink

/-- The pump takes events now or later. -/
def isOpen (channel : Channel σ) : Bool :=
  match channel.pump with
  | .waiting => true
  | .holding _ => true
  | .finished => false
  | .broken => false

/-- Send an event, and tell whether it was accepted. -/
def send (channel : Channel σ) (event : Event) : Bool × Channel σ :=
  if channel.isOpen ∧ channel.queue.length < channel.bound then
    (true, { channel with queue := channel.queue ++ [event] })
  else
    (false, { channel with dropped := channel.dropped + 1 })

/-- Send some events one after the other. -/
def sendAll (channel : Channel σ) : List Event → List Bool × Channel σ
  | [] => ([], channel)
  | event :: events =>
      let (accepted, channel) := channel.send event
      let (rest, channel) := channel.sendAll events
      (accepted :: rest, channel)

/-- Let a ready pump take the first event of the queue. -/
def receive (channel : Channel σ) : Channel σ :=
  match channel.pump, channel.queue with
  | .waiting, event :: queue => { channel with pump := .holding event, queue := queue }
  | _, _ => channel

/-- Let the pump hand over the event that it holds.  With a sink that breaks down, the queue and all
that is in it are gone. -/
def deliver (accept : σ → Event → Option σ) (channel : Channel σ) : Channel σ :=
  match channel.pump with
  | .holding event =>
      match accept channel.sink event with
      | some sink =>
          { channel with pump := .waiting, delivered := channel.delivered + 1, sink := sink }
      | none => { channel with pump := .broken, queue := [] }
  | _ => channel

/-- Let the pump hand over what it holds and then take and hand over up to `count` events. -/
def pumpUpTo (accept : σ → Event → Option σ) : Nat → Channel σ → Channel σ
  | 0, channel => channel.deliver accept
  | count + 1, channel => pumpUpTo accept count (channel.deliver accept).receive

/-- Let the pump run until the queue is empty. -/
def drain (accept : σ → Event → Option σ) (channel : Channel σ) : Channel σ :=
  pumpUpTo accept channel.queue.length channel

/-- Send some events, and after each one let the pump run until the queue is empty. -/
def relayAll (accept : σ → Event → Option σ) (channel : Channel σ) :
    List Event → List Bool × Channel σ
  | [] => ([], channel)
  | event :: events =>
      let (accepted, channel) := channel.send event
      let (rest, channel) := (channel.drain accept).relayAll accept events
      (accepted :: rest, channel)

/-- Let a ready pump stop, once the last sender has left and the queue is empty. -/
def finish (channel : Channel σ) : Channel σ :=
  match channel.pump, channel.queue with
  | .waiting, [] => { channel with pump := .finished }
  | _, _ => channel

/-- Let the pump run to its end after the last sender has left. -/
def close (accept : σ → Event → Option σ) (channel : Channel σ) : Channel σ :=
  (channel.drain accept).finish

/-- Close the channel and give the number of events that were handed over; a pump that broke down
does not give its number. -/
def shutdown (accept : σ → Event → Option σ) (channel : Channel σ) : Nat × Channel σ :=
  let channel := channel.close accept
  match channel.pump with
  | .broken => (0, channel)
  | _ => (channel.delivered, channel)

end Channel

end ProcessWatch
