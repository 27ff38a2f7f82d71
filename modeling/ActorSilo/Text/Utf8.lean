/-! # Reading UTF-8 text with replacement

Bytes are read as UTF-8 wherever they form well-formed characters. Every maximal
ill-formed subpart becomes one replacement character `U+FFFD`, and reading goes on right
after it. A maximal ill-formed subpart is the longest start of a sequence that no
well-formed sequence continues, or a single byte that starts none. This is the
substitution the Unicode standard recommends for lossy decoding.

The well-formed sequences are those of the Unicode standard's table of well-formed byte
sequences: a lead byte fixes the length and the range of the second byte, and the later
bytes are continuation bytes. So overlong forms, surrogates and code points past
`U+10FFFF` are ill-formed.
-/

namespace ActorSilo.Text

/-- What a lead byte allows: the lowest and highest second byte and the length of the
sequence; `none` for a byte that leads no multi-byte sequence. -/
def leadRange (b : UInt8) : Option (UInt8 × UInt8 × Nat) :=
  if 0xC2 ≤ b ∧ b ≤ 0xDF then some (0x80, 0xBF, 2)
  else if b = 0xE0 then some (0xA0, 0xBF, 3)
  else if 0xE1 ≤ b ∧ b ≤ 0xEC then some (0x80, 0xBF, 3)
  else if b = 0xED then some (0x80, 0x9F, 3)
  else if 0xEE ≤ b ∧ b ≤ 0xEF then some (0x80, 0xBF, 3)
  else if b = 0xF0 then some (0x90, 0xBF, 4)
  else if 0xF1 ≤ b ∧ b ≤ 0xF3 then some (0x80, 0xBF, 4)
  else if b = 0xF4 then some (0x80, 0x8F, 4)
  else none

/-- The code point bits a lead byte gives to a sequence of `n` bytes. -/
def leadBits (b : UInt8) (n : Nat) : Nat :=
  if n = 2 then b.toNat % 32 else if n = 3 then b.toNat % 16 else b.toNat % 8

/-- Where a reader is in the bytes of a character. -/
inductive Utf8State where
  | idle
  /-- Inside a character: `need` more bytes to come, the next one between `lo` and `hi`;
  `acc` holds the code point bits read so far. -/
  | within (need acc : Nat) (lo hi : UInt8)
  deriving Repr, Inhabited

/-- Reads a byte between characters: an ASCII character, the start of a longer one, or a
byte that starts none. -/
def startByte (b : UInt8) : List Char × Utf8State :=
  if b < 0x80 then ([Char.ofNat b.toNat], .idle)
  else
    match leadRange b with
    | some (lo, hi, n) => ([], .within (n - 1) (leadBits b n) lo hi)
    | none => (['�'], .idle)

/-- Reads one byte: the characters it completes and where the reader is after it. A byte
that cannot continue the character begun ends it as ill-formed, and is then read anew
between characters. -/
def step : Utf8State → UInt8 → List Char × Utf8State
  | .idle, b => startByte b
  | .within need acc lo hi, b =>
    if lo ≤ b ∧ b ≤ hi then
      let acc := acc * 64 + b.toNat % 64
      if need ≤ 1 then ([Char.ofNat acc], .idle) else ([], .within (need - 1) acc 0x80 0xBF)
    else
      let (cs, s) := startByte b
      ('�' :: cs, s)

/-- The characters of bytes read from a reader's position; a character left unfinished
at the end is ill-formed. -/
def decodeFrom : Utf8State → List UInt8 → List Char
  | .idle, [] => []
  | .within .., [] => ['�']
  | s, b :: rest =>
    let (cs, s) := step s b
    cs ++ decodeFrom s rest

/-- The characters of bytes read as UTF-8, each maximal ill-formed subpart replaced by
`U+FFFD`. -/
def decodeLossy (bs : List UInt8) : List Char := decodeFrom .idle bs

/-- The text of bytes read as UTF-8, each maximal ill-formed subpart replaced by
`U+FFFD`. -/
def lossyText (bs : List UInt8) : String := String.ofList (decodeLossy bs)

example : decodeLossy [0x61, 0xE2, 0x82, 0xAC] = ['a', '€'] := by decide
example : decodeLossy [0xE0, 0xA0, 0x61] = ['�', 'a'] := by decide
example : decodeLossy [0xC3, 0xA9, 0xFF, 0xED, 0xA0, 0x80] = ['é', '�', '�', '�', '�'] := by decide
example : decodeLossy [0xF0, 0x9F, 0x98] = ['�'] := by decide

end ActorSilo.Text
