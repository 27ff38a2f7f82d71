import ActorSilo.Json.Value
import ActorSilo.Text.Decimal

/-! # Writing JSON text

The compact form: no blank anywhere, members in the order the object holds them,
integers in decimal, floats in their shortest round-trip digits (`Text.Decimal.render`,
so `1e+16`)
and non-finite floats as `null`. In strings the quote, the backslash and the control
characters are escaped (`\n`, `\t`, … where JSON has a short form, else `\u00XX` with
lowercase digits); everything else is written as it is.
-/

namespace ActorSilo.Json

/-- The hexadecimal digit of `n < 16`, lowercase. -/
def hexDigit (n : Nat) : Char :=
  if n < 10 then Char.ofNat (48 + n) else Char.ofNat (87 + n)

/-- One character of a string, escaped for JSON text. -/
def escapeChar (c : Char) : String :=
  if c = '"' then "\\\""
  else if c = '\\' then "\\\\"
  else if c = '\n' then "\\n"
  else if c = '\r' then "\\r"
  else if c = '\t' then "\\t"
  else if c.toNat = 8 then "\\b"
  else if c.toNat = 12 then "\\f"
  else if c.toNat < 32 then
    "\\u00" ++ String.singleton (hexDigit (c.toNat / 16)) ++ String.singleton (hexDigit (c.toNat % 16))
  else String.singleton c

def quote (s : String) : String :=
  "\"" ++ String.join (s.toList.map escapeChar) ++ "\""

def floatText (x : Float) : String :=
  if x.isNaN || x.isInf then "null" else Text.Decimal.render x

mutual

def compact : Json → String
  | .null => "null"
  | .bool true => "true"
  | .bool false => "false"
  | .nat n => toString n
  | .neg i => toString i
  | .float x => floatText x
  | .str s => quote s
  | .arr items => "[" ++ ",".intercalate (compactItems items) ++ "]"
  | .obj fields => "\x7b" ++ ",".intercalate (compactFields fields) ++ "\x7d"

def compactItems : List Json → List String
  | [] => []
  | v :: rest => compact v :: compactItems rest

def compactFields : List (String × Json) → List String
  | [] => []
  | (k, v) :: rest => (quote k ++ ":" ++ compact v) :: compactFields rest

end

end ActorSilo.Json
