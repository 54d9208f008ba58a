/-
# Texts in quotation marks

A text is quoted so that its reader sees every character: quotation marks and
backslashes get a backslash, the common controls their letters, and what does
not show by itself its number.

Key definitions: `escapeChar`, `quote`.
-/
import HotReload.Text.Visibility

namespace HotReload

/-- The character as it stands in a quoted text. -/
def escapeChar (c : Char) : String :=
  if c = '\x22' then "\\\""
  else if c = '\x5c' then "\\\\"
  else if c = '\n' then "\\n"
  else if c = '\r' then "\\r"
  else if c = '\t' then "\\t"
  else if c.toNat = 0 then "\\0"
  else if CodePoints.extending.contains c.toNat || CodePoints.unprintable.contains c.toNat then
    "\\u\x7b" ++ String.ofList (Nat.toDigits 16 c.toNat) ++ "\x7d"
  else c.toString

/-- The text in quotation marks. -/
def quote (text : String) : String :=
  "\"" ++ String.join (text.toList.map escapeChar) ++ "\""

end HotReload
