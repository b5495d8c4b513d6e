/-
Module: ProcessWatch.Json.Token
Purpose: The lexical level of JSON: brackets, separators and the values that have no parts.
Trusted boundary: none
Main exports: Token, Json.tokens?

A token is read from the front of a text together with the rest behind it.  Two values without a
separator, such as `01` or `truefalse`, are two tokens here and no value for the reader of tokens.
-/
import ProcessWatch.Json.Basic
import ProcessWatch.Json.DoubleRange

namespace ProcessWatch.Json

/-- One lexical element of a JSON text. -/
inductive Token where
  | openArray
  | closeArray
  | openObject
  | closeObject
  | comma
  | colon
  /-- A value without parts, or the name of a member. -/
  | scalar (value : Json)
deriving Repr, BEq

/-- The blanks that may stand between tokens. -/
def isSpace (c : Char) : Bool :=
  c == ' ' || c == '\t' || c == '\n' || c == '\r'

/-! ## Strings -/

/-- The value of one hexadecimal digit in either case. -/
def hexDigit? (c : Char) : Option Nat :=
  if '0' ≤ c ∧ c ≤ '9' then some (c.toNat - '0'.toNat)
  else if 'a' ≤ c ∧ c ≤ 'f' then some (c.toNat - 'a'.toNat + 10)
  else if 'A' ≤ c ∧ c ≤ 'F' then some (c.toNat - 'A'.toNat + 10)
  else none

/-- The code unit that four hexadecimal digits name. -/
def codeUnit? (a b c d : Char) : Option Nat := do
  let a ← hexDigit? a
  let b ← hexDigit? b
  let c ← hexDigit? c
  let d ← hexDigit? d
  return ((a * 16 + b) * 16 + c) * 16 + d

/-- The character that a one-letter escape stands for. -/
def escaped? : Char → Option Char
  | '"' => some '"'
  | '\\' => some '\\'
  | '/' => some '/'
  | 'b' => some '\x08'
  | 'f' => some '\x0c'
  | 'n' => some '\n'
  | 'r' => some '\r'
  | 't' => some '\t'
  | _ => none

/-- Read the inside of a string literal up to its closing quote: the codes of its characters, where
an escape may give half of a surrogate pair. -/
def stringCodes? : List Char → Option (List Nat × List Char)
  | [] => none
  | '"' :: rest => some ([], rest)
  | '\\' :: 'u' :: a :: b :: c :: d :: rest => do
      let unit ← codeUnit? a b c d
      let (codes, rest) ← stringCodes? rest
      return (unit :: codes, rest)
  | '\\' :: letter :: rest => do
      let c ← escaped? letter
      let (codes, rest) ← stringCodes? rest
      return (c.toNat :: codes, rest)
  | c :: rest =>
      if c.toNat < 0x20 then
        none
      else do
        let (codes, rest) ← stringCodes? rest
        return (c.toNat :: codes, rest)

/-- The first half of a surrogate pair. -/
def isHighSurrogate (code : Nat) : Bool := 0xD800 ≤ code && code < 0xDC00

/-- The second half of a surrogate pair. -/
def isLowSurrogate (code : Nat) : Bool := 0xDC00 ≤ code && code < 0xE000

/-- The characters that codes stand for once surrogate pairs are joined; none if a half is alone. -/
def charsOfCodes? : List Nat → Option (List Char)
  | [] => some []
  | high :: low :: rest =>
      if isHighSurrogate high && isLowSurrogate low then
        (charsOfCodes? rest).map
          (Char.ofNat (0x10000 + (high - 0xD800) * 0x400 + (low - 0xDC00)) :: ·)
      else if isHighSurrogate high || isLowSurrogate high then
        none
      else
        (charsOfCodes? (low :: rest)).map (Char.ofNat high :: ·)
  | [code] =>
      if isHighSurrogate code || isLowSurrogate code then none else some [Char.ofNat code]

/-- The string value with the given character codes. -/
def ofCodes (codes : List Nat) : Json :=
  match charsOfCodes? codes with
  | some chars => .string (String.ofList chars)
  | none => .unpaired

/-! ## Numbers -/

/-- Read a run of digits that has to hold at least one. -/
def digits? (chars : List Char) : Option (List Char × List Char) :=
  let run := chars.takeWhile Char.isDigit
  if run.isEmpty then none else some (run, chars.dropWhile Char.isDigit)

/-- Read the digits of a whole number; only zero itself starts with a zero. -/
def wholeDigits? (chars : List Char) : Option (List Char × List Char) := do
  let (run, rest) ← digits? chars
  if run.head? = some '0' ∧ run.length ≠ 1 then none else some (run, rest)

/-- Read the digits of a fraction, if one starts here. -/
def fraction? : List Char → Option (Option (List Char) × List Char)
  | '.' :: rest => (digits? rest).map fun (run, rest) => (some run, rest)
  | chars => some (none, chars)

/-- Read the sign and the digits of an exponent. -/
def signedDigits? : List Char → Option (Int × List Char)
  | '-' :: rest => (digits? rest).map fun (run, rest) => (-(Text.digitsValue run : Int), rest)
  | '+' :: rest => (digits? rest).map fun (run, rest) => ((Text.digitsValue run : Int), rest)
  | chars => (digits? chars).map fun (run, rest) => ((Text.digitsValue run : Int), rest)

/-- Read an exponent, if one starts here. -/
def exponent? : List Char → Option (Option Int × List Char)
  | 'e' :: rest => (signedDigits? rest).map fun (exponent, rest) => (some exponent, rest)
  | 'E' :: rest => (signedDigits? rest).map fun (exponent, rest) => (some exponent, rest)
  | chars => some (none, chars)

/-- Read a number without its sign. -/
def unsigned? (negative : Bool) (chars : List Char) : Option (Json × List Char) := do
  let (whole, rest) ← wholeDigits? chars
  let (fraction, rest) ← fraction? rest
  let (exponent, rest) ← exponent? rest
  let magnitude := Text.digitsValue whole
  if fraction.isNone && exponent.isNone && !(negative && magnitude == 0) then
    return (.integer (if negative then -magnitude else magnitude), rest)
  else
    return (.decimal (isInDoubleRange whole (fraction.getD []) (exponent.getD 0)), rest)

/-- Read a number. -/
def number? : List Char → Option (Json × List Char)
  | '-' :: rest => unsigned? true rest
  | chars => unsigned? false chars

/-! ## Tokens -/

/-- Read the one token at the front of a text that starts with no blank. -/
def token? : List Char → Option (Token × List Char)
  | '[' :: rest => some (.openArray, rest)
  | ']' :: rest => some (.closeArray, rest)
  | '{' :: rest => some (.openObject, rest)
  | '}' :: rest => some (.closeObject, rest)
  | ',' :: rest => some (.comma, rest)
  | ':' :: rest => some (.colon, rest)
  | '"' :: rest => (stringCodes? rest).map fun (codes, rest) => (.scalar (ofCodes codes), rest)
  | 'n' :: 'u' :: 'l' :: 'l' :: rest => some (.scalar .null, rest)
  | 't' :: 'r' :: 'u' :: 'e' :: rest => some (.scalar (.bool true), rest)
  | 'f' :: 'a' :: 'l' :: 's' :: 'e' :: rest => some (.scalar (.bool false), rest)
  | chars => (number? chars).map fun (value, rest) => (.scalar value, rest)

/-- Read up to `budget` tokens and blanks; a longer text has no reading. -/
def scan? : Nat → List Char → Option (List Token)
  | _, [] => some []
  | 0, _ :: _ => none
  | budget + 1, c :: rest =>
      if isSpace c then
        scan? budget rest
      else do
        let (token, rest) ← token? (c :: rest)
        let tokens ← scan? budget rest
        return token :: tokens

/-- The tokens of a text.  Every token takes at least one character, so that the length of the text
bounds their number. -/
def tokens? (chars : List Char) : Option (List Token) :=
  scan? chars.length chars

end ProcessWatch.Json
