/-
Module: ProcessWatch.Text.Numeral
Purpose: Reading decimal numerals of a bounded range.  A numeral is an optional sign followed by at
  least one ASCII digit; leading zeros are free, and only a signed range takes a minus.
Trusted boundary: none
Main exports: digitsValue?, readNatural?, readInt32?
-/

namespace ProcessWatch.Text

/-- The value of a run of decimal digits, most significant first. -/
def digitsValue (digits : List Char) : Nat :=
  digits.foldl (fun value digit => value * 10 + (digit.toNat - '0'.toNat)) 0

/-- The value of a run of ASCII digits, if there is one and it holds nothing else. -/
def digitsValue? (chars : List Char) : Option Nat :=
  if chars ≠ [] ∧ chars.all Char.isDigit then some (digitsValue chars) else none

/-- Drop one plus sign in front. -/
def dropPlus : List Char → List Char
  | '+' :: rest => rest
  | chars => chars

/-- Read an unsigned numeral whose value lies below `limit`. -/
def readNatural? (limit : Nat) (text : String) : Option Nat := do
  let value ← digitsValue? (dropPlus text.toList)
  if value < limit then some value else none

/-- Read the value of a signed numeral of any size. -/
def readSigned? : List Char → Option Int
  | '-' :: rest => (digitsValue? rest).map fun value => -(value : Int)
  | chars => (digitsValue? (dropPlus chars)).map fun value => (value : Int)

/-- Read a signed numeral whose value fits a signed 32-bit word. -/
def readInt32? (text : String) : Option Int32 := do
  let value ← readSigned? text.toList
  if Int32.minValue.toInt ≤ value ∧ value ≤ Int32.maxValue.toInt then
    some (Int32.ofInt value)
  else
    none

/-- Read an unsigned numeral whose value fits an unsigned 32-bit word. -/
def readUInt32? (text : String) : Option UInt32 :=
  (readNatural? UInt32.size text).map UInt32.ofNat

end ProcessWatch.Text
