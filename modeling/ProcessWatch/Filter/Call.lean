/-
Module: ProcessWatch.Filter.Call
Purpose: The requests that the holder of a filter answers, with what each of them logs.
Trusted boundary: none
Main exports: Filter.Call, Filter.Answer, Filter.perform
-/
import ProcessWatch.Log

namespace ProcessWatch.Filter

/-- A request to the holder of a filter. -/
inductive Call where
  | set (field : Field) (text : String)
  | setPid (pid : Pid)
  | setParent (pid : Pid)
  | setCommand (text : String)
  | setMinLifetime (seconds : Nat)
  | setMaxLifetime (seconds : Nat)
  | enable
  | disable
  | reset
  | configure (filter : Filter)
  | isEnabled
  | current
  | accepts (subject : Subject)
deriving DecidableEq, Repr

/-- The answer to a request. -/
inductive Answer where
  | done
  | refused (error : FilterError)
  | flag (value : Bool)
  | current (filter : Filter)
deriving DecidableEq, Repr

/-- What a request leads to. -/
structure Outcome where
  answer : Answer
  filter : Filter
  log : List LogEvent := []
deriving DecidableEq, Repr

/-- Change one requirement by a text.  A text that is refused changes and logs nothing. -/
def performSet (filter : Filter) (field : Field) (text : String) : Outcome :=
  match filter.set field text with
  | .ok changed => ⟨.done, changed, [.filterUpdated field (Text.trim text)]⟩
  | .error error => ⟨.refused error, filter, []⟩

/-- Answer a request. -/
def perform (filter : Filter) : Call → Outcome
  | .set field text => filter.performSet field text
  | .setPid pid => ⟨.done, filter.setPid pid, []⟩
  | .setParent pid => ⟨.done, filter.setParent pid, []⟩
  | .setCommand text => ⟨.done, filter.setCommand text, []⟩
  | .setMinLifetime seconds => ⟨.done, filter.setMinLifetime seconds, []⟩
  | .setMaxLifetime seconds => ⟨.done, filter.setMaxLifetime seconds, []⟩
  | .enable => ⟨.done, { filter with enabled := true }, [.filterEnabled]⟩
  | .disable => ⟨.done, { filter with enabled := false }, [.filterDisabled]⟩
  | .reset => ⟨.done, {}, [.filterReset]⟩
  | .configure next => ⟨.done, next, []⟩
  | .isEnabled => ⟨.flag filter.enabled, filter, []⟩
  | .current => ⟨.current filter, filter, []⟩
  | .accepts subject => ⟨.flag (filter.accepts subject), filter, []⟩

end ProcessWatch.Filter
