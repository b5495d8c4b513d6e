/-
Module: ProcessWatch.Json.Printer
Purpose: Writing JSON values, on one line or spread over indented lines.
Trusted boundary: none
Main exports: Json.Layout, Json.compact, Json.pretty
-/
import ProcessWatch.Json.Basic

namespace ProcessWatch.Json

/-- One hexadecimal digit, in lower case. -/
def hexDigit (value : Nat) : Char :=
  if value < 10 then Char.ofNat ('0'.toNat + value) else Char.ofNat ('a'.toNat + (value - 10))

/-- One character inside a string literal.  The quote, the backslash and the control characters are
escaped, by a letter where there is one, and all others stand for themselves. -/
def escape (c : Char) : List Char :=
  if c = '"' then ['\\', '"']
  else if c = '\\' then ['\\', '\\']
  else if c = '\x08' then ['\\', 'b']
  else if c = '\x0c' then ['\\', 'f']
  else if c = '\n' then ['\\', 'n']
  else if c = '\r' then ['\\', 'r']
  else if c = '\t' then ['\\', 't']
  else if c.toNat < 0x20 then
    ['\\', 'u', '0', '0', hexDigit (c.toNat / 16), hexDigit (c.toNat % 16)]
  else [c]

/-- A string literal. -/
def quoted (text : String) : List Char :=
  '"' :: (text.toList.flatMap escape ++ ['"'])

/-- What a written value may have between its tokens. -/
structure Layout where
  /-- The blanks around an item or a member that stands at the given depth. -/
  lineBreak : Nat → List Char
  /-- The blanks between a member's colon and its value. -/
  afterColon : List Char

/-- Everything on one line, without blanks. -/
def Layout.compact : Layout where
  lineBreak _ := []
  afterColon := []

/-- Every item and every member on a line of its own, two spaces further in than its container. -/
def Layout.pretty : Layout where
  lineBreak depth := '\n' :: List.replicate (2 * depth) ' '
  afterColon := [' ']

mutual

/-- Write a value that stands at the given depth. -/
def write (layout : Layout) (depth : Nat) : Json → List Char
  | .null => ['n', 'u', 'l', 'l']
  | .bool true => ['t', 'r', 'u', 'e']
  | .bool false => ['f', 'a', 'l', 's', 'e']
  | .integer value => (toString value).toList
  | .decimal true => ['0', '.', '0']
  | .decimal false => ['1', 'e', '9', '9', '9']
  | .string text => quoted text
  | .unpaired => ['"', '\\', 'u', 'd', '8', '0', '0', '"']
  | .array [] => ['[', ']']
  | .array (item :: items) =>
      '[' :: (layout.lineBreak (depth + 1) ++ (write layout (depth + 1) item ++
        (writeItems layout (depth + 1) items ++ (layout.lineBreak depth ++ [']']))))
  | .object [] => ['\x7b', '\x7d']
  | .object ((name, value) :: members) =>
      '\x7b' :: (layout.lineBreak (depth + 1) ++ (quoted name ++ (':' :: (layout.afterColon ++
        (write layout (depth + 1) value ++ (writeMembers layout (depth + 1) members ++
          (layout.lineBreak depth ++ ['\x7d'])))))))

/-- Write the items that follow the first one. -/
def writeItems (layout : Layout) (depth : Nat) : List Json → List Char
  | [] => []
  | item :: items =>
      ',' :: (layout.lineBreak depth ++ (write layout depth item ++ writeItems layout depth items))

/-- Write the members that follow the first one. -/
def writeMembers (layout : Layout) (depth : Nat) : List (String × Json) → List Char
  | [] => []
  | (name, value) :: members =>
      ',' :: (layout.lineBreak depth ++ (quoted name ++ (':' :: (layout.afterColon ++
        (write layout depth value ++ writeMembers layout depth members)))))

end

/-- The value on one line. -/
def compact (value : Json) : String :=
  String.ofList (write .compact 0 value)

/-- The value spread over indented lines. -/
def pretty (value : Json) : String :=
  String.ofList (write .pretty 0 value)

end ProcessWatch.Json
