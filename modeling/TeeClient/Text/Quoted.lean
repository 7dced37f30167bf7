import TeeClient.Text.Hidden

/-!
# Quoted texts

`Quoted.text` puts a text in double quotes so that it can be read on one line: quotes, backslashes
and the usual control characters are escaped by a letter, other characters that do not show as
themselves by their number.
-/

namespace TeeClient.Quoted

/-- A character between quotes. -/
def escape (c : Char) : String :=
  if c = '\x00' then "\\0"
  else if c = '\t' then "\\t"
  else if c = '\r' then "\\r"
  else if c = '\n' then "\\n"
  else if c = '"' then "\\\""
  else if c = '\\' then "\\\\"
  else if Text.isShown c then String.singleton c
  else "\\u\x7b" ++ String.ofList (Nat.toDigits 16 c.toNat) ++ "\x7d"

/-- A text in quotes. -/
def text (s : String) : String :=
  "\"" ++ String.join (s.toList.map escape) ++ "\""

end TeeClient.Quoted
