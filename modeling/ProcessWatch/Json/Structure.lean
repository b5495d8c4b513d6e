/-
Module: ProcessWatch.Json.Structure
Purpose: Reading structures and enumerations out of JSON values.
Trusted boundary: none
Main exports: Json.Slot, Json.slots?, Json.variantName?, Json.Slot.required, Json.Slot.optional,
  Json.Slot.withDefault

A structure is an object that names its fields, in any order and with members of other names
among them, or an array that has the fields in their own order.
-/
import ProcessWatch.Json.Basic

namespace ProcessWatch.Json

/-- What a value has for one field of a structure. -/
inductive Slot where
  | given (value : Json)
  /-- The object has no member of the field's name. -/
  | absent
  /-- The array ends before the field. -/
  | beyond
deriving Repr, Inhabited

/-- The values of all members of one name. -/
def valuesOf (name : String) (members : List (String × Json)) : List Json :=
  (members.filter fun (key, _) => key = name).map Prod.snd

/-- What an object has for one field; a name that is there twice is an error. -/
def memberSlot? (members : List (String × Json)) (name : String) : Option Slot :=
  match valuesOf name members with
  | [] => some .absent
  | [value] => some (.given value)
  | _ => none

/-- What an array has for each of `count` fields. -/
def itemSlots : Nat → List Json → List Slot
  | 0, _ => []
  | count + 1, [] => .beyond :: itemSlots count []
  | count + 1, value :: values => .given value :: itemSlots count values

/-- What an object has for each of some fields. -/
def memberSlots? (names : List String) (members : List (String × Json)) : Option (List Slot) :=
  names.mapM (memberSlot? members)

/-- What a value has for each field of a structure. -/
def slots? (names : List String) : Json → Option (List Slot)
  | .object members => memberSlots? names members
  | .array items => if items.length ≤ names.length then some (itemSlots names.length items) else none
  | _ => none

namespace Slot

/-- The value of a field that has to be there. -/
def required {α : Type} (decode : Json → Option α) : Slot → Option α
  | .given value => decode value
  | _ => none

/-- The value of a field that may be `null` and, in an object, absent. -/
def optional {α : Type} (decode : Json → Option α) : Slot → Option (Option α)
  | .given value => value.optional? decode
  | .absent => some none
  | .beyond => none

/-- The value of a field that need not be there. -/
def withDefault {α : Type} (default : α) (decode : Json → Option α) : Slot → Option α
  | .given value => decode value
  | .absent => some default
  | .beyond => some default

end Slot

/-- The name of an enumeration's variant without content: a string, or an object whose one member
of that name is `null`. -/
def variantName? : Json → Option String
  | .string name => some name
  | .object [(name, .null)] => some name
  | _ => none

end ProcessWatch.Json
