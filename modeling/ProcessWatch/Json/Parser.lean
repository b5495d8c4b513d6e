/-
Module: ProcessWatch.Json.Parser
Purpose: The grammar of JSON: one value from its tokens, and one value from a whole text.
Trusted boundary: none
Main exports: Json.ofMembers, Json.ofTokens?, Json.parse?
-/
import ProcessWatch.Json.Token

namespace ProcessWatch.Json

/-- The name that a token gives a member: a text, or nothing if its string stands for none. -/
def memberName? : Token → Option (Option String)
  | .scalar (.string name) => some (some name)
  | .scalar .unpaired => some none
  | _ => none

/-- The object of some members, if all their names stand for texts. -/
def ofMembers (members : List (Option String × Json)) : Json :=
  match members.mapM fun (name, value) => name.map fun name => (name, value) with
  | some members => .object members
  | none => .unpaired

theorem ofMembers_named (members : List (String × Json)) :
    ofMembers (members.map fun (name, value) => (some name, value)) = .object members := by
  have named : (members.map fun (name, value) => (some name, value)).mapM
      (fun ((name, value) : Option String × Json) => name.map fun name => (name, value)) =
        some members := by
    induction members with
    | nil => rfl
    | cons member members ih => simp [ih]
  rw [ofMembers, named]

mutual

/-- Read one value from the front of some tokens, nested at most `budget` deep. -/
def readValue? : Nat → List Token → Option (Json × List Token)
  | 0, _ => none
  | _ + 1, .scalar value :: rest => some (value, rest)
  | _ + 1, .openArray :: .closeArray :: rest => some (.array [], rest)
  | budget + 1, .openArray :: rest => do
      let (items, rest) ← readItems? budget rest
      return (.array items, rest)
  | _ + 1, .openObject :: .closeObject :: rest => some (.object [], rest)
  | budget + 1, .openObject :: rest => do
      let (members, rest) ← readMembers? budget rest
      return (ofMembers members, rest)
  | _ + 1, _ => none

/-- Read the items of an array, at least one, and its closing bracket. -/
def readItems? : Nat → List Token → Option (List Json × List Token)
  | 0, _ => none
  | budget + 1, tokens => do
      let (item, rest) ← readValue? budget tokens
      match rest with
      | .comma :: rest => do
          let (items, rest) ← readItems? budget rest
          return (item :: items, rest)
      | .closeArray :: rest => return ([item], rest)
      | _ => none

/-- Read the members of an object, at least one, and its closing bracket. -/
def readMembers? : Nat → List Token → Option (List (Option String × Json) × List Token)
  | 0, _ => none
  | budget + 1, token :: .colon :: tokens => do
      let name ← memberName? token
      let (value, rest) ← readValue? budget tokens
      match rest with
      | .comma :: rest => do
          let (members, rest) ← readMembers? budget rest
          return ((name, value) :: members, rest)
      | .closeObject :: rest => return ([(name, value)], rest)
      | _ => none
  | _ + 1, _ => none

end

/-- The value that some tokens spell.  A call that consumes no token is followed by one that does,
so that twice their number bounds the nesting of calls. -/
def ofTokens? (tokens : List Token) : Option Json :=
  match readValue? (2 * tokens.length + 1) tokens with
  | some (value, []) => some value
  | _ => none

/-- The value that a text spells, with blanks around it at most. -/
def parse? (text : String) : Option Json :=
  (tokens? text.toList).bind ofTokens?

end ProcessWatch.Json
