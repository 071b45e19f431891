import AlertLine.Json.Basic
import AlertLine.Text.Utf8

/-!
# Writing JSON

The compact form: no white space, entries in order, short escapes where there are any, `\u00xx`
for the other control characters, and every other character as it is.
-/

namespace AlertLine.Json

/-- The hexadecimal digit of a number below sixteen. -/
def hexDigit (n : Nat) : Char := Nat.digitChar n

/-- One character inside a string literal. -/
def escapedChar (c : Char) : List Char :=
  if c == '"' then ['\\', '"']
  else if c == '\\' then ['\\', '\\']
  else if c == '\n' then ['\\', 'n']
  else if c == '\r' then ['\\', 'r']
  else if c == '\t' then ['\\', 't']
  else if c == '\x08' then ['\\', 'b']
  else if c == '\x0c' then ['\\', 'f']
  else if c.toNat < 0x20 then
    ['\\', 'u', '0', '0', hexDigit (c.toNat / 16), hexDigit (c.toNat % 16)]
  else [c]

/-- A string literal. One without a reading is written as a lone surrogate, which has none. -/
def literal : Reading → List Char
  | some s => '"' :: (s.toList.flatMap escapedChar ++ ['"'])
  | none => ['"', '\\', 'u', 'd', '8', '0', '0', '"']

/-- A number. -/
def Number.text (n : Number) : List Char :=
  (if n.negative then ['-'] else []) ++ n.whole.repr.toList ++
    (if n.fraction.isEmpty then [] else '.' :: n.fraction) ++
    (match n.exponent with
      | some e => 'e' :: e.repr.toList
      | none => [])

mutual

/-- The characters of a value in compact form. -/
def chars : Json → List Char
  | .null => ['n', 'u', 'l', 'l']
  | .bool true => ['t', 'r', 'u', 'e']
  | .bool false => ['f', 'a', 'l', 's', 'e']
  | .number n => n.text
  | .string s => literal s
  | .array items => '[' :: (itemsChars items ++ [']'])
  | .object entries => '{' :: (entriesChars entries ++ ['}'])

/-- The items of an array, with commas between them. -/
def itemsChars : List Json → List Char
  | [] => []
  | [v] => chars v
  | v :: vs => chars v ++ ',' :: itemsChars vs

/-- The entries of an object, with commas between them. -/
def entriesChars : List (Reading × Json) → List Char
  | [] => []
  | [(name, v)] => literal name ++ ':' :: chars v
  | (name, v) :: es => literal name ++ ':' :: (chars v ++ ',' :: entriesChars es)

end

/-- The compact form of a value. -/
def print (v : Json) : String := String.ofList (chars v)

/-- The bytes of the compact form of a value. -/
def bytes (v : Json) : Bytes := Utf8.encode (print v)

end AlertLine.Json
