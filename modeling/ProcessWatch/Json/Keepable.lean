/-
Module: ProcessWatch.Json.Keepable
Purpose: Which JSON values can be kept until it is known what they are read for.
Trusted boundary: none
Main exports: Json.isKeepable

A part that is read where it stands is read for what it is, and a part that is passed over has to be
well formed only.  A part that comes ahead of what tells its kind is kept as a value instead, so that
its strings have to stand for texts, its numbers have to lie in the range of a double, and its
nesting is limited.
-/
import ProcessWatch.Json.Basic
import ProcessWatch.Json.DoubleRange

namespace ProcessWatch.Json

/-- How many arrays and objects may stand inside one another where a value is kept. -/
def maxDepth : Nat := 127

/-- A value without parts can be kept.  An integer that fits a word is kept as it is; a longer one is
kept as a double. -/
def isKeepableScalar : Json → Bool
  | .unpaired => false
  | .decimal inRange => inRange
  | .integer value =>
      value.natAbs < Word.size || isInDoubleRange (Nat.toDigits 10 value.natAbs) [] 0
  | _ => true

/-- A value that stands inside `outer` arrays and objects can be kept. -/
def isKeepable (outer : Nat) (json : Json) : Bool :=
  outer + json.depth ≤ maxDepth && json.every isKeepableScalar

end ProcessWatch.Json
