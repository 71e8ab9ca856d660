import BrowserTelemetry.Text.Escaped

/-!
# Quoted text

A text as messages quote it: in double quotes, with a backslash before what could be misread, and
with the number of any character that does not show.
-/

namespace BrowserTelemetry.Text

set_option autoImplicit false

/-- A character by its number, in the fewest lower-case hexadecimal digits. -/
def byNumber (c : Char) : String :=
  "\\u\x7b" ++ String.ofList (Nat.toDigits 16 c.toNat) ++ "\x7d"

/-- A character inside quotes. -/
def quotedChar (c : Char) : String :=
  if c = '\x00' then "\\0"
  else if c = '\t' then "\\t"
  else if c = '\n' then "\\n"
  else if c = '\r' then "\\r"
  else if c = '"' then "\\\""
  else if c = '\\' then "\\\\"
  else if c.toNat < 0x20 then byNumber c
  else if c.toNat < 0x7f then c.toString
  else if escapedPoints.contains c then byNumber c
  else c.toString

/-- A text in quotes. -/
def quoted (s : String) : String :=
  "\"" ++ String.join (s.toList.map quotedChar) ++ "\""

end BrowserTelemetry.Text
