import StreamScalar.Text.Digits
import StreamScalar.Text.Unprintable

/-!
# Quoted texts

A text between double quotes, in which quotes, backslashes and all that cannot be shown are written
as escapes.
-/

namespace StreamScalar

namespace Text

/-- A character inside quotes. -/
def quoteChar (c : Char) : String :=
  if c = '\x00' then "\\0"
  else if c = '\t' then "\\t"
  else if c = '\r' then "\\r"
  else if c = '\n' then "\\n"
  else if c = '\x22' then "\\\""
  else if c = '\\' then "\\\\"
  else if isUnprintable c then "\\u\x7b" ++ hexadecimal c.toNat ++ "\x7d"
  else c.toString

def quote (s : String) : String :=
  "\"" ++ String.join (s.toList.map quoteChar) ++ "\""

end Text

end StreamScalar
