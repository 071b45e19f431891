import AlertLine.Text.Printable

/-!
# Quoted text

The form in which a text is shown to an operator: between double quotes, with the usual short
escapes, and `\u{…}` in hexadecimal for a character that cannot be shown by itself.
-/

namespace AlertLine.Text

/-- The escape of a character by its code point, as in `\u{200b}`. -/
def codePointEscape (c : Char) : String :=
  "\\u" ++ "\x7b" ++ String.ofList (Nat.toDigits 16 c.toNat) ++ "\x7d"

/-- One character as it stands inside the quotes. -/
def quotedChar (c : Char) : String :=
  if c == '\x00' then "\\0"
  else if c == '\t' then "\\t"
  else if c == '\r' then "\\r"
  else if c == '\n' then "\\n"
  else if c == '\\' then "\\\\"
  else if c == '"' then "\\\""
  else if isGraphemeExtend c || !isPrintable c then codePointEscape c
  else c.toString

/-- The text between double quotes. -/
def quoted (s : String) : String :=
  "\"" ++ String.join (s.toList.map quotedChar) ++ "\""

end AlertLine.Text
