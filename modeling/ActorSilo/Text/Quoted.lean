import ActorSilo.Text.NonPrinting
import ActorSilo.Text.Extending

/-! # Quoted text of diagnostics

Diagnostics show a text value between double quotes. Inside the quotes a backslash
escapes the quote, the backslash, NUL, tab, carriage return and line feed (`\"`, `\\`,
`\0`, `\t`, `\r`, `\n`); a character that extends the previous one
(`Text.extending`) or does not print (`Text.nonPrinting`) is written as `\u{…}` with its
code point in lowercase hexadecimal; every other character stands as it is.
-/

namespace ActorSilo.Text

/-- The lowercase hexadecimal digits of `n`, without leading zeros. -/
def hexDigits (n : Nat) : String :=
  String.ofList (Nat.toDigits 16 n)

def quotedChar (c : Char) : String :=
  if c = '"' then "\\\""
  else if c = '\\' then "\\\\"
  else if c.toNat = 0 then "\\0"
  else if c = '\t' then "\\t"
  else if c = '\r' then "\\r"
  else if c = '\n' then "\\n"
  else if extending.contains c.toNat || nonPrinting.contains c.toNat then
    "\\u\x7b" ++ hexDigits c.toNat ++ "\x7d"
  else String.singleton c

/-- A text between double quotes, escaped as diagnostics show it. -/
def quoted (s : String) : String :=
  "\"" ++ String.join (s.toList.map quotedChar) ++ "\""

end ActorSilo.Text
