/-
Module: ProcessWatch.Text.Padding
Purpose: Fitting a text into a column.  Widths count characters, and a text wider than its column
  is left as it is.
Trusted boundary: none
Main exports: padRight, padLeft, padBoth, keepFirst, zeroPadded
-/

namespace ProcessWatch.Text

/-- A run of `count` spaces. -/
def spaces (count : Nat) : List Char :=
  List.replicate count ' '

/-- Put a text at the left of a column, spaces after it. -/
def padRight (width : Nat) (text : String) : String :=
  String.ofList (text.toList ++ spaces (width - text.length))

/-- Put a text at the right of a column, spaces before it. -/
def padLeft (width : Nat) (text : String) : String :=
  String.ofList (spaces (width - text.length) ++ text.toList)

/-- Put a text in the middle of a column; of an odd number of spaces the right side takes the
extra one. -/
def padBoth (width : Nat) (text : String) : String :=
  let missing := width - text.length
  String.ofList (spaces (missing / 2) ++ text.toList ++ spaces (missing - missing / 2))

/-- The first `count` characters of a text. -/
def keepFirst (count : Nat) (text : String) : String :=
  String.ofList (text.toList.take count)

/-- A number in decimal, with zeros in front of it up to `width` digits. -/
def zeroPadded (width : Nat) (number : Nat) : String :=
  let digits := (toString number).toList
  String.ofList (List.replicate (width - digits.length) '0' ++ digits)

@[simp] theorem toList_padRight (width : Nat) (text : String) :
    (padRight width text).toList = text.toList ++ spaces (width - text.length) := by
  simp [padRight]

end ProcessWatch.Text
