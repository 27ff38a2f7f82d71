/-! # Hexadecimal text

Identifiers are shown in lowercase hexadecimal padded with zeros to a minimum width
(`0x0000002a`, `act-000000000000002a`); byte strings are shown as two lowercase digits
per byte and read back from such text.
-/

namespace ActorSilo.Text

/-- The lowercase hexadecimal digits of `n`, padded with zeros to at least `width`. -/
def hexPadded (width : Nat) (n : Nat) : String :=
  let ds := Nat.toDigits 16 n
  String.ofList (List.replicate (width - ds.length) '0' ++ ds)

def hexOfBytes (bs : List UInt8) : String :=
  String.join (bs.map fun b => hexPadded 2 b.toNat)

def hexDigitValue? (c : Char) : Option Nat :=
  if '0' ≤ c ∧ c ≤ '9' then some (c.toNat - '0'.toNat)
  else if 'a' ≤ c ∧ c ≤ 'f' then some (c.toNat - 'a'.toNat + 10)
  else if 'A' ≤ c ∧ c ≤ 'F' then some (c.toNat - 'A'.toNat + 10)
  else none

/-- Why a hexadecimal byte text cannot be read. -/
inductive HexError where
  /-- The text has an odd number of bytes. -/
  | oddLength
  /-- A pair of bytes is not a hexadecimal byte. -/
  | invalidDigit
  deriving DecidableEq, Repr

/-- The sentence for a hexadecimal byte text that cannot be read. -/
def HexError.message : HexError → String
  | .oddLength => "odd hex length"
  | .invalidDigit => "bad hex"

/-- The value of a pair of bytes: two hexadecimal digits, or a plus sign and one. -/
def hexPair? (a b : UInt8) : Option UInt8 := do
  let lo ← hexDigitValue? (Char.ofNat b.toNat)
  if a = 43 then pure lo.toUInt8
  else
    let hi ← hexDigitValue? (Char.ofNat a.toNat)
    pure (hi * 16 + lo).toUInt8

/-- Bytes from pairs of the UTF-8 bytes of a hexadecimal text. -/
def bytesOfHexBytes : List UInt8 → Except HexError (List UInt8)
  | [] => .ok []
  | [_] => .error .oddLength
  | a :: b :: rest =>
    match hexPair? a b, bytesOfHexBytes rest with
    | _, .error .oddLength => .error .oddLength
    | none, _ => .error .invalidDigit
    | some v, tail => tail.map (v :: ·)

/-- Bytes from a hexadecimal text: its UTF-8 bytes taken in pairs, each two hexadecimal
digits of either case or a plus sign and one digit. An odd byte count is refused before
any pair is read. -/
def bytesOfHex (s : String) : Except HexError (List UInt8) :=
  bytesOfHexBytes s.toUTF8.toList

example : (bytesOfHexBytes [48, 97, 70, 70]).toOption = some [10, 255] := by decide
example : (bytesOfHexBytes [43, 102]).toOption = some [15] := by decide
example : (bytesOfHexBytes [45, 102]).toOption = none := by decide
example : (match bytesOfHexBytes [122, 122, 48] with
    | .error e => e.message
    | .ok _ => "") = "odd hex length" := by decide

/-- The eight little-endian bytes of a signed 64-bit integer. -/
def bytesOfInt64 (i : Int) : List UInt8 :=
  let n := (i % Int.pow 2 64).toNat
  (List.range 8).map fun k => (n / Nat.pow 2 (8 * k) % 256).toUInt8

/-- The signed 64-bit integer of the first eight bytes, little-endian. -/
def int64OfBytes (bs : List UInt8) : Int :=
  let n := (List.range 8).foldl (fun acc k => acc + (bs.getD k 0).toNat * Nat.pow 2 (8 * k)) 0
  if n ≥ Nat.pow 2 63 then (n : Int) - Int.pow 2 64 else n

end ActorSilo.Text
