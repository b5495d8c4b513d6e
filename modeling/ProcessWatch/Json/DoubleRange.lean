/-
Module: ProcessWatch.Json.DoubleRange
Purpose: Which number literals lie in the range of a double when they are read the quick way: as the
  product of the leading digits, as many as fit a word, and a power of ten.
Trusted boundary: doubles are rounded to the nearest one, and halfway between two to the even one
Main exports: roundToDouble, Json.significand, Json.isInDoubleRange

Both factors are rounded to doubles before they are multiplied, and the product is rounded again.  So
the bound is not that of one rounding: a literal somewhat below it can be carried beyond it.
-/
import ProcessWatch.Text.Numeral
import ProcessWatch.Word

namespace ProcessWatch

/-- How many significant binary digits a double has. -/
def doublePrecision : Nat := 53

/-- How many binary digits a whole number that has a double can have in all. -/
def doubleWidth : Nat := 1024

/-- The nearest whole number with no more significant binary digits than a double has; of two that
are equally near, the one whose last such digit is zero. -/
def roundToDouble (value : Nat) : Nat :=
  let unit := 1 <<< (value.log2 + 1 - doublePrecision)
  let count := value / unit
  let rest := value % unit
  if unit < 2 * rest || (unit == 2 * rest && count % 2 == 1) then
    (count + 1) * unit
  else
    count * unit

namespace Json

/-- Append digits to a number as long as it fits a word, and count the digits that are left. -/
def significand (value : Nat) : List Char → Nat × Nat
  | [] => (value, 0)
  | digit :: digits =>
      let longer := value * 10 + Text.digitsValue [digit]
      if longer < Word.size then significand longer digits else (value, digits.length + 1)

/-- The product of a number that fits a word and a power of ten has a double.  Powers of ten beyond
all doubles are not computed; only zero can be multiplied by one. -/
def scaledHasDouble (value : Nat) (exponent : Int) : Bool :=
  if value = 0 || exponent ≤ 0 then true
  else if 308 < exponent then false
  else
    let power := roundToDouble (Nat.pow 10 exponent.toNat)
    (roundToDouble (roundToDouble value * power)).log2 < doubleWidth

/-- A literal of these digits before and after the decimal point and this exponent lies in the range
of a double.  Digits before the point that do not fit the word count for their place only, and those
behind it do not count.  Digits behind the point are tried even if some before it did not fit. -/
def isInDoubleRange (whole fraction : List Char) (exponent : Int) : Bool :=
  let (leading, skipped) := significand 0 whole
  let (value, left) := significand leading fraction
  scaledHasDouble value (exponent + skipped - (fraction.length - left : Nat))

end Json

end ProcessWatch
