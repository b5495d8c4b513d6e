/-
Module: ProcessWatch.Console.Basic
Purpose: Carrying out the commands of a console on a store.
Trusted boundary: none
Main exports: Reply, Console, Execution, Console.act, Console.dispatch, Console.dispatchLine,
  Console.executeLine

A command of the console changes the store, asks it, or makes up news of a process.  Such news is
not given to the store here, but handed on: to the store itself, or to a channel in front of it.
-/
import ProcessWatch.Command.Basic
import ProcessWatch.Encoding.Record
import ProcessWatch.Json.Printer
import ProcessWatch.Report.Table
import ProcessWatch.Store.Recording
import ProcessWatch.Store.Steering

namespace ProcessWatch

/-- The answer of the console to a command. -/
inductive Reply where
  | text (text : String)
  /-- The session is over. -/
  | quit
deriving DecidableEq, Repr, Inhabited

/-- What a command leads to. -/
structure Execution where
  reply : Except CommandError Reply
  store : Store
  /-- News of processes to be handed on. -/
  events : List Event := []
  log : List LogEvent := []

/-- What a console has of its own. -/
structure Console where
  /-- How many records to list if nothing else is asked for. -/
  listLimit : Nat
deriving DecidableEq, Repr, Inhabited

namespace Console

/-- A console that lists at least one record. -/
def create (listLimit : Nat) : Console := ⟨max listLimit 1⟩

/-! ## The kinds of commands -/

/-- Answer with a report and leave the store alone. -/
def report (store : Store) (text : String) : Execution :=
  { reply := .ok (.text text), store := store }

/-- Answer that an operation on the store is done. -/
def confirm {α : Type} (outcome : Outcome α) (text : String) : Execution :=
  { reply := .ok (.text text), store := outcome.store, log := outcome.log }

/-- Hand on news of a process, and answer that it was sent. -/
def announce (store : Store) (event : Event) (text : String) : Execution :=
  { reply := .ok (.text text), store := store, events := [event] }

/-- Pass a request to the store's filter. -/
def changeFilter (store : Store) (call : Filter.Call) (text : String) : Execution :=
  let outcome := store.askFilter call
  match outcome.value with
  | .refused error => { reply := .error (.filter error), store := outcome.store, log := outcome.log }
  | _ => confirm outcome text

/-! ## Commands -/

/-- Carry out a command, apart from noting that it was started. -/
def act (console : Console) (now : Timestamp) (store : Store) : Command → Execution
  | .control order => confirm (store.obey order) (order.keyword ++ " ok")
  | .enableFilter => changeFilter store .enable "filter enabled"
  | .disableFilter => changeFilter store .disable "filter disabled"
  | .resetFilter => changeFilter store .reset "filter reset"
  | .setFilter field value =>
      changeFilter store (.set field value) ("filter " ++ field.keyword ++ " set")
  | .showStats => report store (Report.statistics (store.snapshot now))
  | .listProcesses limit =>
      report store (Report.table Report.defaultTitle (store.list (limit.getD console.listLimit)))
  | .listRecent count => report store (Report.table Report.recentTitle (store.listRecent count))
  | .showFilter => report store (Report.filter store.filter)
  | .showControl => report store (Report.control store.status)
  | .exportJson limit => report store (store.list (limit.getD console.listLimit)).encode.pretty
  | .fork pid parent name =>
      announce store (.start pid parent (CommandName.ofString name))
        ("fork " ++ toString pid.toNat ++ " sent")
  | .exit pid exitCode =>
      announce store (.exit pid exitCode {}) ("exit " ++ toString pid.toNat ++ " sent")
  | .help => report store Report.help
  | .quit => { reply := .ok .quit, store := store }

/-- Carry out a command, and note that it was started. -/
def dispatch (console : Console) (now : Timestamp) (store : Store) (command : Command) :
    Execution :=
  let execution := console.act now store command
  { execution with log := .commandStarted command.keyword :: execution.log }

/-- Carry out the command that a line gives.  A line that gives none does nothing. -/
def dispatchLine (console : Console) (now : Timestamp) (store : Store) (line : String) :
    Execution :=
  match Command.parse line with
  | .ok command => console.dispatch now store command
  | .error error => { reply := .error error, store := store }

/-! ## News straight to the store -/

/-- Give the store the news that a command made up. -/
def settle (now : Timestamp) (execution : Execution) : Execution :=
  execution.events.foldl
    (fun settled event =>
      let outcome := settled.store.deliver now event
      { settled with store := outcome.store, log := settled.log ++ outcome.log })
    { execution with events := [] }

/-- Carry out the command that a line gives, news included. -/
def executeLine (console : Console) (now : Timestamp) (store : Store) (line : String) :
    Execution :=
  settle now (console.dispatchLine now store line)

end Console

end ProcessWatch
