/-
Module: ProcessWatch.Proofs.Json.Reading
Purpose: A value that is written as a text is read back from it as the same value, whatever the value
  and however the text is laid out.
Trusted boundary: none
Main exports: Json.readValue?_tokens, Json.ofTokens?_tokens, Json.parse?_write, Json.parse?_compact,
  Json.parse?_pretty
-/
import ProcessWatch.Json.Parser
import ProcessWatch.Proofs.Json.Lexing

namespace ProcessWatch.Json

/-! ## Single steps of the reader -/

/-- No value starts with a closing bracket. -/
theorem tokens_ne_closeArray (value : Json) (rest behind : List Token) :
    value.tokens ++ rest ≠ .closeArray :: behind := by
  cases value with
  | array items => cases items <;> simp [tokens]
  | object members => cases members <;> simp [tokens]
  | _ => simp [tokens]

section Steps

variable {budget : Nat} {rest : List Token}

/-- An array that is not empty is read item by item. -/
theorem readValue?_openArray (notEmpty : ∀ behind, rest ≠ .closeArray :: behind) :
    readValue? (budget + 1) (.openArray :: rest) =
      (readItems? budget rest).map fun (items, rest) => (.array items, rest) := by
  rw [readValue?.eq_4 _ _ notEmpty]
  cases readItems? budget rest <;> rfl

/-- An object that is not empty is read member by member. -/
theorem readValue?_openObject (notEmpty : ∀ behind, rest ≠ .closeObject :: behind) :
    readValue? (budget + 1) (.openObject :: rest) =
      (readMembers? budget rest).map fun (members, rest) => (ofMembers members, rest) := by
  rw [readValue?.eq_6 _ _ notEmpty]
  cases readMembers? budget rest <;> rfl

/-- The last item is the one before the closing bracket. -/
theorem readItems?_last {item : Json} {tokens : List Token}
    (first : readValue? budget tokens = some (item, .closeArray :: rest)) :
    readItems? (budget + 1) tokens = some ([item], rest) := by
  simp [readItems?, first]

/-- Behind a comma there is another item. -/
theorem readItems?_next {item : Json} {items : List Json} {tokens behind : List Token}
    (first : readValue? budget tokens = some (item, .comma :: behind))
    (others : readItems? budget behind = some (items, rest)) :
    readItems? (budget + 1) tokens = some (item :: items, rest) := by
  simp [readItems?, first, others]

theorem readMembers?_last {name : String} {value : Json} {tokens : List Token}
    (first : readValue? budget tokens = some (value, .closeObject :: rest)) :
    readMembers? (budget + 1) (.scalar (.string name) :: .colon :: tokens) =
      some ([(some name, value)], rest) := by
  simp [readMembers?, memberName?, first]

theorem readMembers?_next {name : String} {value : Json} {members : List (Option String × Json)}
    {tokens behind : List Token}
    (first : readValue? budget tokens = some (value, .comma :: behind))
    (others : readMembers? budget behind = some (members, rest)) :
    readMembers? (budget + 1) (.scalar (.string name) :: .colon :: tokens) =
      some ((some name, value) :: members, rest) := by
  simp [readMembers?, memberName?, first, others]

end Steps

/-! ## Values from their tokens -/

/-- The members as a reader collects them. -/
def named (members : List (String × Json)) : List (Option String × Json) :=
  members.map fun (name, value) => (some name, value)

/-- Members whose names are texts make an object. -/
theorem ofMembers_eq (members : List (String × Json)) :
    ofMembers (named members) = .object members :=
  ofMembers_named members

/-- A value without parts is one token. -/
theorem readValue?_scalar {value : Json} (scalar : value.tokens = [.scalar value])
    {rest : List Token} {budget : Nat} (enough : 2 * value.tokens.length ≤ budget + 1) :
    readValue? budget (value.tokens ++ rest) = some (value, rest) := by
  rw [scalar] at enough ⊢
  obtain ⟨budget, rfl⟩ : ∃ less, budget = less + 1 :=
    Nat.exists_eq_add_of_le' (by simpa using enough)
  rfl

mutual

/-- A value is read back from its tokens, whatever follows them. -/
theorem readValue?_tokens : ∀ (value : Json) (rest : List Token) (budget : Nat),
    2 * value.tokens.length ≤ budget + 1 →
      readValue? budget (value.tokens ++ rest) = some (value, rest)
  | .null, _, _, enough => readValue?_scalar rfl enough
  | .bool _, _, _, enough => readValue?_scalar rfl enough
  | .integer _, _, _, enough => readValue?_scalar rfl enough
  | .decimal _, _, _, enough => readValue?_scalar rfl enough
  | .string _, _, _, enough => readValue?_scalar rfl enough
  | .unpaired, _, _, enough => readValue?_scalar rfl enough
  | .array [], _, budget, enough => by
      obtain ⟨budget, rfl⟩ : ∃ less, budget = less + 1 :=
        Nat.exists_eq_add_of_le' (by simp [tokens] at enough; omega)
      rfl
  | .array (item :: items), rest, budget, enough => by
      simp only [tokens, List.length_cons, List.length_append, List.length_nil] at enough
      obtain ⟨budget, rfl⟩ : ∃ less, budget = less + 1 := Nat.exists_eq_add_of_le' (by omega)
      have inside := readItems?_tokens (item :: items) (List.cons_ne_nil _ _) rest budget
        (by
          simp only [tokensOfItems, List.length_cons, List.length_append]
          omega)
      simp only [tokensOfItems, List.tail_cons, List.append_assoc] at inside
      simp only [tokens, List.cons_append, List.append_assoc, List.nil_append]
      rw [readValue?_openArray (tokens_ne_closeArray item _), inside]
      rfl
  | .object [], _, budget, enough => by
      obtain ⟨budget, rfl⟩ : ∃ less, budget = less + 1 :=
        Nat.exists_eq_add_of_le' (by simp [tokens] at enough; omega)
      rfl
  | .object ((name, value) :: members), rest, budget, enough => by
      simp only [tokens, List.length_cons, List.length_append, List.length_nil] at enough
      obtain ⟨budget, rfl⟩ : ∃ less, budget = less + 1 := Nat.exists_eq_add_of_le' (by omega)
      have inside := readMembers?_tokens ((name, value) :: members) (List.cons_ne_nil _ _)
        rest budget (by
          simp only [tokensOfMembers, List.length_cons, List.length_append]
          omega)
      simp only [tokensOfMembers, List.tail_cons, List.cons_append, List.append_assoc] at inside
      simp only [tokens, List.cons_append, List.append_assoc, List.nil_append]
      rw [readValue?_openObject (by simp), inside]
      simp only [Option.map_some, ofMembers_eq]

/-- Items are read back up to the bracket that closes the array. -/
theorem readItems?_tokens : ∀ (items : List Json), items ≠ [] →
    ∀ (rest : List Token) (budget : Nat), 2 * (tokensOfItems items).length ≤ budget →
      readItems? budget ((tokensOfItems items).tail ++ .closeArray :: rest) = some (items, rest)
  | [], notEmpty, _, _, _ => absurd rfl notEmpty
  | [item], _, rest, budget, enough => by
      simp only [tokensOfItems, List.length_cons, List.length_append, List.length_nil] at enough
      obtain ⟨budget, rfl⟩ : ∃ less, budget = less + 1 := Nat.exists_eq_add_of_le' (by omega)
      have first := readValue?_tokens item (.closeArray :: rest) budget (by omega)
      simp only [tokensOfItems, List.tail_cons, List.append_nil]
      exact readItems?_last first
  | item :: next :: items, _, rest, budget, enough => by
      have others := readItems?_tokens (next :: items) (List.cons_ne_nil _ _) rest
        (budget - 1) (by
          simp only [tokensOfItems, List.length_cons, List.length_append] at enough ⊢
          omega)
      simp only [tokensOfItems, List.length_cons, List.length_append] at enough
      obtain ⟨budget, rfl⟩ : ∃ less, budget = less + 1 := Nat.exists_eq_add_of_le' (by omega)
      simp only [tokensOfItems, List.tail_cons, List.append_assoc, List.cons_append] at others ⊢
      exact readItems?_next (readValue?_tokens item _ _ (by omega)) others

/-- Members are read back up to the bracket that closes the object. -/
theorem readMembers?_tokens : ∀ (members : List (String × Json)), members ≠ [] →
    ∀ (rest : List Token) (budget : Nat), 2 * (tokensOfMembers members).length ≤ budget →
      readMembers? budget ((tokensOfMembers members).tail ++ .closeObject :: rest) =
        some (named members, rest)
  | [], notEmpty, _, _, _ => absurd rfl notEmpty
  | [(name, value)], _, rest, budget, enough => by
      simp only [tokensOfMembers, List.length_cons, List.length_append, List.length_nil] at enough
      obtain ⟨budget, rfl⟩ : ∃ less, budget = less + 1 := Nat.exists_eq_add_of_le' (by omega)
      have first := readValue?_tokens value (.closeObject :: rest) budget (by omega)
      simp only [tokensOfMembers, List.tail_cons, List.append_nil, List.cons_append]
      exact readMembers?_last first
  | (name, value) :: next :: members, _, rest, budget, enough => by
      have others := readMembers?_tokens (next :: members) (List.cons_ne_nil _ _) rest
        (budget - 1) (by
          simp only [tokensOfMembers, List.length_cons, List.length_append] at enough ⊢
          omega)
      simp only [tokensOfMembers, List.length_cons, List.length_append] at enough
      obtain ⟨budget, rfl⟩ : ∃ less, budget = less + 1 := Nat.exists_eq_add_of_le' (by omega)
      simp only [tokensOfMembers, List.tail_cons, List.append_assoc, List.cons_append] at others ⊢
      exact readMembers?_next (readValue?_tokens value _ _ (by omega)) others

end

/-- The tokens of a value are read back as the value. -/
theorem ofTokens?_tokens (value : Json) : ofTokens? value.tokens = some value := by
  have read := readValue?_tokens value [] (2 * value.tokens.length + 1) (by omega)
  rw [List.append_nil] at read
  rw [ofTokens?, read]

/-! ## Values from their texts -/

/-- A written value is read back. -/
theorem parse?_write {layout : Layout} (blank : layout.IsBlank) (depth : Nat) (value : Json) :
    parse? (String.ofList (write layout depth value)) = some value := by
  rw [parse?, String.toList_ofList, tokens?_write blank, Option.bind_some, ofTokens?_tokens]

/-- A value on one line is read back. -/
@[simp] theorem parse?_compact (value : Json) : parse? value.compact = some value :=
  parse?_write Layout.isBlank_compact 0 value

@[simp] theorem parse?_pretty (value : Json) : parse? value.pretty = some value :=
  parse?_write Layout.isBlank_pretty 0 value

end ProcessWatch.Json
