import SpokenIntent.Text.Printable

/-!
Quoted text, as status lines show it: between double quotes, with a backslash before a quote or a
backslash, the short escapes for tab, line feed, carriage return and null, and every other character
that does not print spelled out by its code point in braces.
-/

namespace SpokenIntent.Text

/-- The digits of `n` in lower case hexadecimal, without leading zeros. -/
def hex (n : Nat) : String :=
  String.ofList (Nat.toDigits 16 n)

def quoteChar (c : Char) : String :=
  if c = '"' then "\\\""
  else if c = '\\' then "\\\\"
  else if c = '\t' then "\\t"
  else if c = '\n' then "\\n"
  else if c = '\r' then "\\r"
  else if c = '\x00' then "\\0"
  else if isPrintable c then c.toString
  else "\\u\x7b" ++ hex c.toNat ++ "\x7d"

def quote (s : String) : String :=
  "\"" ++ String.join (s.toList.map quoteChar) ++ "\""

end SpokenIntent.Text
