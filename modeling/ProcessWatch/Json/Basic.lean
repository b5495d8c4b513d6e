/-
Module: ProcessWatch.Json.Basic
Purpose: Values of the JSON data format, as a text gives them: members keep their order and their
  repetitions, and integer literals are kept apart from all other numbers.
Trusted boundary: the data format is modelled here, and no other reader or writer of it is consulted
Main exports: Json, Json.natural?, Json.text?, Json.members?, Json.listOf?, Json.depth, Json.every
-/

namespace ProcessWatch

/-- One JSON value. -/
inductive Json where
  | null
  | bool (value : Bool)
  /-- A number literal without fraction and exponent; `-0` is not one. -/
  | integer (value : Int)
  /-- Any other number literal.  Nothing here reads its value, but only whether it lies in the range
  of a double. -/
  | decimal (inRange : Bool)
  | string (text : String)
  /-- A string literal with half of a surrogate pair in it, which stands for no text, or an object
  that has such a literal for the name of a member. -/
  | unpaired
  | array (items : List Json)
  | object (members : List (String × Json))
deriving Repr, BEq, Inhabited

namespace Json

/-- An unsigned integer literal. -/
def ofNat (value : Nat) : Json := .integer value

/-- `null` for a missing value. -/
def ofOption {α : Type} (encode : α → Json) : Option α → Json
  | none => .null
  | some value => encode value

/-- The value of an integer literal from zero up to, and not including, `limit`. -/
def natural? (limit : Nat) : Json → Option Nat
  | .integer value => if 0 ≤ value ∧ value.toNat < limit then some value.toNat else none
  | _ => none

/-- The value of an integer literal that fits an unsigned 32-bit word. -/
def uint32? (json : Json) : Option UInt32 :=
  (json.natural? UInt32.size).map UInt32.ofNat

/-- The value of an integer literal that fits a signed 32-bit word. -/
def int32? : Json → Option Int32
  | .integer value =>
      if Int32.minValue.toInt ≤ value ∧ value ≤ Int32.maxValue.toInt then
        some (Int32.ofInt value)
      else
        none
  | _ => none

/-- The text of a string. -/
def text? : Json → Option String
  | .string text => some text
  | _ => none

/-- The value of a truth value. -/
def bool? : Json → Option Bool
  | .bool value => some value
  | _ => none

/-- The items of an array. -/
def items? : Json → Option (List Json)
  | .array items => some items
  | _ => none

/-- The members of an object. -/
def members? : Json → Option (List (String × Json))
  | .object members => some members
  | _ => none

/-- Read `null` as a missing value and anything else by `decode`. -/
def optional? {α : Type} (decode : Json → Option α) : Json → Option (Option α)
  | .null => some none
  | json => (decode json).map some

/-- Read every item of an array. -/
def listOf? {α : Type} (decode : Json → Option α) (json : Json) : Option (List α) :=
  json.items?.bind fun items => items.mapM decode

theorem natural?_ofNat {limit value : Nat} (small : value < limit) :
    (ofNat value).natural? limit = some value := by
  simp [ofNat, natural?, small]

mutual

/-- How many arrays and objects stand inside one another, at most. -/
def depth : Json → Nat
  | .array items => depthOfItems items + 1
  | .object members => depthOfMembers members + 1
  | _ => 0

/-- The greatest depth among some values. -/
def depthOfItems : List Json → Nat
  | [] => 0
  | item :: items => max (depth item) (depthOfItems items)

/-- The greatest depth among the values of some members. -/
def depthOfMembers : List (String × Json) → Nat
  | [] => 0
  | (_, value) :: members => max (depth value) (depthOfMembers members)

end

mutual

/-- Every part of the value that has no parts itself passes the test. -/
def every (test : Json → Bool) : Json → Bool
  | .array items => everyItem test items
  | .object members => everyMember test members
  | scalar => test scalar

/-- Every part of some values passes the test. -/
def everyItem (test : Json → Bool) : List Json → Bool
  | [] => true
  | item :: items => every test item && everyItem test items

/-- Every part of the values of some members passes the test. -/
def everyMember (test : Json → Bool) : List (String × Json) → Bool
  | [] => true
  | (_, value) :: members => every test value && everyMember test members

end

end Json

end ProcessWatch
