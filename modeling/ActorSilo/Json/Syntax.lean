import ActorSilo.Json.Value

/-! # Reading JSON text

A `Json.Reader` walks the bytes of a strict JSON text. Errors carry the line and the column
(bytes since the last line break, counting the byte not yet consumed when the error is about
it). Integers are read exactly while they fit in 64 bits; other numbers become binary64 by
scaling the integer digits with one power of ten (`Json.Reader.floatOfParts`).
-/

namespace ActorSilo.Json

/-- A reading failure: a message and, unless `line = 0`, a position. -/
structure Error where
  message : String
  line : Nat := 0
  column : Nat := 0
  deriving Inhabited, BEq

namespace Error

/-- The message followed by the position, when there is one. -/
def render (e : Error) : String :=
  if e.line = 0 then e.message
  else s!"{e.message} at line {e.line} column {e.column}"

end Error

/-- Why the text is not JSON. -/
inductive SyntaxCode where
  | eofList | eofObject | eofString | eofValue
  | expectedColon | expectedListCommaOrEnd | expectedObjectCommaOrEnd
  | expectedSomeIdent | expectedSomeValue
  | invalidEscape | invalidNumber | numberOutOfRange | invalidUnicodeCodePoint
  | controlCharacter | keyMustBeAString | loneLeadingSurrogate
  | trailingComma | trailingCharacters | unexpectedEndOfHexEscape | recursionLimit
  deriving Inhabited, BEq

namespace SyntaxCode

def message : SyntaxCode → String
  | eofList => "EOF while parsing a list"
  | eofObject => "EOF while parsing an object"
  | eofString => "EOF while parsing a string"
  | eofValue => "EOF while parsing a value"
  | expectedColon => "expected `:`"
  | expectedListCommaOrEnd => "expected `,` or `]`"
  | expectedObjectCommaOrEnd => "expected `,` or `\x7d`"
  | expectedSomeIdent => "expected ident"
  | expectedSomeValue => "expected value"
  | invalidEscape => "invalid escape"
  | invalidNumber => "invalid number"
  | numberOutOfRange => "number out of range"
  | invalidUnicodeCodePoint => "invalid unicode code point"
  | controlCharacter => "control character (\\u0000-\\u001F) found while parsing a string"
  | keyMustBeAString => "key must be a string"
  | loneLeadingSurrogate => "lone leading surrogate in hex escape"
  | trailingComma => "trailing comma"
  | trailingCharacters => "trailing characters"
  | unexpectedEndOfHexEscape => "unexpected end of hex escape"
  | recursionLimit => "recursion limit exceeded"

end SyntaxCode

/-- A position in a JSON text. -/
structure Reader where
  src : ByteArray
  pos : Nat := 0
  /-- How many more arrays and objects may open inside the current one. -/
  depth : Nat := 128

/-- Reading with failure: the monad of every reader of this library. A failure keeps the
position where it happened, which is where later positions are taken from. -/
abbrev ReadM := ExceptT Error (StateM Reader)

/-- A number as read, before any typed reader looks at it. -/
inductive Number where
  | nat (n : Nat)
  | neg (i : Int)
  | float (x : Float)
  deriving Inhabited

namespace Reader

/-- Line and column of the byte offset `i`. -/
def positionOf (src : ByteArray) (i : Nat) : Nat × Nat :=
  let rec go (k line lineStart : Nat) : Nat → Nat × Nat
    | 0 => (line, i - lineStart)
    | fuel + 1 =>
      if k < i then
        if src.get! k == 10 then go (k + 1) (line + 1) (k + 1) fuel else go (k + 1) line lineStart fuel
      else (line, i - lineStart)
  go 0 1 0 (i + 1)

def peek? : ReadM (Option UInt8) := do
  let r ← get
  return if r.pos < r.src.size then some (r.src.get! r.pos) else none

/-- The byte at the reading position, or zero at the end. -/
def peekOrZero : ReadM UInt8 := do
  return (← peek?).getD 0

def eat : ReadM Unit := modify fun r => { r with pos := r.pos + 1 }

def next? : ReadM (Option UInt8) := do
  let b ← peek?
  if b.isSome then eat
  return b

def errorHere (message : String) : ReadM Error := do
  let r ← get
  let (line, column) := positionOf r.src r.pos
  return { message, line, column }

/-- An error about the byte at the reading position, which it counts. -/
def errorAhead (message : String) : ReadM Error := do
  let r ← get
  let (line, column) := positionOf r.src (min r.src.size (r.pos + 1))
  return { message, line, column }

def fail {α : Type} (code : SyntaxCode) : ReadM α := do throw (← errorHere code.message)

def failAhead {α : Type} (code : SyntaxCode) : ReadM α := do throw (← errorAhead code.message)

/-- Gives an error without a position the reading position. -/
def placed (e : Error) : ReadM Error :=
  if e.line = 0 then errorHere e.message else pure e

def skipBlanks : ReadM (Option UInt8) := do
  let r ← get
  let rec go (k : Nat) : Nat → Nat
    | 0 => k
    | fuel + 1 =>
      if k < r.src.size then
        let b := r.src.get! k
        if b == 32 || b == 10 || b == 9 || b == 13 then go (k + 1) fuel else k
      else k
  let k := go r.pos (r.src.size - r.pos + 1)
  set { r with pos := k }
  peek?

/-- Reads the rest of a literal whose first byte is consumed. -/
def expectIdent (rest : List UInt8) : ReadM Unit := do
  for b in rest do
    match ← next? with
    | none => fail .eofValue
    | some c => if c != b then fail .expectedSomeIdent

/-! ## Strings -/

def hexValue? (b : UInt8) : Option Nat :=
  if 48 ≤ b ∧ b ≤ 57 then some (b - 48).toNat
  else if 97 ≤ b ∧ b ≤ 102 then some (b - 87).toNat
  else if 65 ≤ b ∧ b ≤ 70 then some (b - 55).toNat
  else none

/-- Reads four hexadecimal digits; all four bytes are taken before a bad digit is reported. -/
def hex4 : ReadM Nat := do
  let r ← get
  if r.pos + 4 > r.src.size then
    set { r with pos := r.src.size }
    fail .eofString
  let mut v := 0
  for i in [0:4] do
    match hexValue? (r.src.get! (r.pos + i)) with
    | some d => v := v * 16 + d
    | none =>
      set { r with pos := r.pos + 4 }
      fail .invalidEscape
  set { r with pos := r.pos + 4 }
  return v

/-- The UTF-8 bytes of a code point. -/
def utf8 (c : Nat) : ByteArray := (String.singleton (Char.ofNat c)).toUTF8

/-- Reads the rest of an escape whose backslash is consumed. -/
def escape : ReadM ByteArray := do
  match ← next? with
  | none => fail .eofString
  | some c =>
    if c == 34 then return ByteArray.mk #[34]
    else if c == 92 then return ByteArray.mk #[92]
    else if c == 47 then return ByteArray.mk #[47]
    else if c == 98 then return ByteArray.mk #[8]
    else if c == 102 then return ByteArray.mk #[12]
    else if c == 110 then return ByteArray.mk #[10]
    else if c == 114 then return ByteArray.mk #[13]
    else if c == 116 then return ByteArray.mk #[9]
    else if c == 117 then
      let n ← hex4
      if 0xDC00 ≤ n ∧ n ≤ 0xDFFF then fail .loneLeadingSurrogate
      else if 0xD800 ≤ n ∧ n ≤ 0xDBFF then
        match ← next? with
        | none => fail .eofString
        | some b1 =>
          if b1 != 92 then fail .unexpectedEndOfHexEscape
          match ← next? with
          | none => fail .eofString
          | some b2 =>
            if b2 != 117 then fail .unexpectedEndOfHexEscape
            let n2 ← hex4
            if n2 < 0xDC00 ∨ n2 > 0xDFFF then fail .loneLeadingSurrogate
            return utf8 (0x10000 + (n - 0xD800) * 0x400 + (n2 - 0xDC00))
      else return utf8 n
    else fail .invalidEscape

/-- Reads the rest of a string whose opening quote is consumed. -/
def stringBody : ReadM String := do
  let rec go (acc : ByteArray) : Nat → ReadM ByteArray
    | 0 => fail .eofString
    | fuel + 1 => do
      match ← next? with
      | none => fail .eofString
      | some b =>
        if b == 34 then return acc
        else if b == 92 then
          let e ← escape
          go (acc ++ e) fuel
        else if b < 32 then fail .controlCharacter
        else go (acc.push b) fuel
  let r ← get
  let bytes ← go ByteArray.empty (r.src.size - r.pos + 1)
  match String.fromUTF8? bytes with
  | some s => return s
  | none => fail .invalidUnicodeCodePoint

/-! ## Numbers -/

/-- Binary64 powers of ten from `10^0` to `10^308`. -/
def pow10 (k : Nat) : Float := Float.ofScientific 1 false k

/-- `significand · 10^exponent` as binary64: one multiplication or division by a power
of ten, dividing by `10^308` first for exponents below `-308`. -/
def floatOfParts (positive : Bool) (significand : Nat) (exponent : Int) : ReadM Float := do
  let mut f := Float.ofNat significand
  let mut e := exponent
  for _ in [0:8] do
    if e.natAbs ≤ 308 then
      if e ≥ 0 then
        f := f * pow10 e.toNat
        if f.isInf then fail .numberOutOfRange
      else
        f := f / pow10 e.natAbs
      break
    else
      if f == 0 then break
      if e ≥ 0 then fail .numberOutOfRange
      f := f / pow10 308
      e := e + 308
  return if positive then f else -f

/-- The largest unsigned 64-bit integer. -/
def u64Max : Nat := Nat.pow 2 64 - 1

/-- True when `acc * 10 + d` exceeds `limit`. -/
def overflows (acc d limit : Nat) : Bool :=
  acc ≥ limit / 10 && (acc > limit / 10 || d > limit % 10)

/-- Reads the digits of an exponent after `e`. -/
def exponentPart (positive : Bool) (significand : Nat) (start : Int) : ReadM Float := do
  eat
  let b ← peekOrZero
  let positiveExp ← if b == 43 then do eat; pure true else if b == 45 then do eat; pure false else pure true
  match ← next? with
  | none => fail .eofValue
  | some c =>
    if c < 48 || c > 57 then fail .invalidNumber
    let r ← get
    -- `none` as soon as the exponent no longer fits in 31 bits
    let rec digits (acc : Nat) : Nat → ReadM (Option Nat)
      | 0 => pure (some acc)
      | fuel + 1 => do
        let d ← peekOrZero
        if 48 ≤ d ∧ d ≤ 57 then
          eat
          if overflows acc (d - 48).toNat 2147483647 then pure none
          else digits (acc * 10 + (d - 48).toNat) fuel
        else pure (some acc)
    match ← digits (c - 48).toNat (r.src.size - r.pos + 1) with
    | some exp =>
      let final := if positiveExp then start + exp else start - exp
      floatOfParts positive significand final
    | none =>
      if significand ≠ 0 ∧ positiveExp then fail .numberOutOfRange
      let r ← get
      let rec skip : Nat → ReadM Unit
        | 0 => pure ()
        | fuel + 1 => do
          let d ← peekOrZero
          if 48 ≤ d ∧ d ≤ 57 then eat; skip fuel else pure ()
      skip (r.src.size - r.pos + 1)
      return if positive then 0.0 else -0.0

def fractionPart (positive : Bool) (significand : Nat) (start : Int) : ReadM Float := do
  eat
  let r ← get
  -- digits that still fit move the exponent; later ones are dropped
  let rec digits (acc : Nat) (count : Nat) (overflowed : Bool) : Nat → ReadM (Nat × Nat × Bool)
    | 0 => pure (acc, count, overflowed)
    | fuel + 1 => do
      let d ← peekOrZero
      if 48 ≤ d ∧ d ≤ 57 then
        eat
        if overflowed then digits acc count true fuel
        else if overflows acc (d - 48).toNat u64Max then digits acc count true fuel
        else digits (acc * 10 + (d - 48).toNat) (count + 1) false fuel
      else pure (acc, count, overflowed)
  let before := (← get).pos
  let (sig, count, _) ← digits significand 0 false (r.src.size - r.pos + 1)
  if (← get).pos == before then
    match ← peek? with
    | some _ => failAhead .invalidNumber
    | none => failAhead .eofValue
  let exponent := start - count
  let b ← peekOrZero
  if b == 101 || b == 69 then exponentPart positive sig exponent
  else floatOfParts positive sig exponent

/-- Reads what follows the integer digits of a number. -/
def numberTail (positive : Bool) (significand : Nat) : ReadM Number := do
  let b ← peekOrZero
  if b == 46 then return .float (← fractionPart positive significand 0)
  else if b == 101 || b == 69 then return .float (← exponentPart positive significand 0)
  else if positive then return .nat significand
  else if significand = 0 then return .float (-0.0)
  else if significand ≤ Nat.pow 2 63 then return .neg (-(significand : Int))
  else return .float (-(Float.ofNat significand))

/-- Reads digits of an integer too long for 64 bits: they only move the exponent. -/
def longInteger (positive : Bool) (significand : Nat) : ReadM Number := do
  let r ← get
  let rec skip (count : Nat) : Nat → ReadM Nat
    | 0 => pure count
    | fuel + 1 => do
      let d ← peekOrZero
      if 48 ≤ d ∧ d ≤ 57 then eat; skip (count + 1) fuel else pure count
  let count ← skip 0 (r.src.size - r.pos + 1)
  let b ← peekOrZero
  if b == 46 then return .float (← fractionPart positive significand count)
  else if b == 101 || b == 69 then return .float (← exponentPart positive significand count)
  else return .float (← floatOfParts positive significand count)

/-- Reads a number whose sign, if any, is consumed. -/
def number (positive : Bool) : ReadM Number := do
  match ← next? with
  | none => fail .eofValue
  | some c =>
    if c == 48 then
      let d ← peekOrZero
      if 48 ≤ d ∧ d ≤ 57 then failAhead .invalidNumber
      numberTail positive 0
    else if 49 ≤ c ∧ c ≤ 57 then
      let r ← get
      let rec digits (acc : Nat) : Nat → ReadM Number
        | 0 => numberTail positive acc
        | fuel + 1 => do
          let d ← peekOrZero
          if 48 ≤ d ∧ d ≤ 57 then
            if overflows acc (d - 48).toNat u64Max then longInteger positive acc
            else
              eat
              digits (acc * 10 + (d - 48).toNat) fuel
          else numberTail positive acc
      digits (c - 48).toNat (r.src.size - r.pos + 1)
    else fail .invalidNumber

/-! ## Lists and objects -/

/-- Enters an array or object: fails when nesting is too deep, then consumes the bracket. -/
def open_ : ReadM Unit := do
  let r ← get
  if r.depth ≤ 1 then failAhead .recursionLimit
  set { r with depth := r.depth - 1, pos := r.pos + 1 }

def close : ReadM Unit := modify fun r => { r with depth := r.depth + 1 }

/-- Before an array element: `true` when one follows, `false` at the closing bracket. -/
def hasNextElement (first : Bool) : ReadM Bool := do
  match ← skipBlanks with
  | none => failAhead .eofList
  | some b =>
    if b == 93 then return false
    else if first then return true
    else if b == 44 then
      eat
      match ← skipBlanks with
      | some 93 => failAhead .trailingComma
      | some _ => return true
      | none => failAhead .eofValue
    else failAhead .expectedListCommaOrEnd

/-- After the elements of an array: consumes the closing bracket. -/
def endList : ReadM Unit := do
  match ← skipBlanks with
  | some 93 => eat
  | some 44 =>
    eat
    match ← skipBlanks with
    | some 93 => failAhead .trailingComma
    | _ => failAhead .trailingCharacters
  | some _ => failAhead .trailingCharacters
  | none => failAhead .eofList

/-- Before an object member: `true` when a key follows, `false` at the closing brace. -/
def hasNextKey (first : Bool) : ReadM Bool := do
  match ← skipBlanks with
  | none => failAhead .eofObject
  | some b =>
    if b == 125 then return false
    else if first then
      if b == 34 then return true else failAhead .keyMustBeAString
    else if b == 44 then
      eat
      match ← skipBlanks with
      | some 34 => return true
      | some 125 => failAhead .trailingComma
      | some _ => failAhead .keyMustBeAString
      | none => failAhead .eofValue
    else failAhead .expectedObjectCommaOrEnd

/-- Reads an object key; the reader stands at its opening quote. -/
def key : ReadM String := do
  eat
  stringBody

def colon : ReadM Unit := do
  match ← skipBlanks with
  | some 58 => eat
  | some _ => failAhead .expectedColon
  | none => failAhead .eofObject

/-- After the members of an object: consumes the closing brace. -/
def endObject : ReadM Unit := do
  match ← skipBlanks with
  | some 125 => eat
  | some 44 => failAhead .trailingComma
  | some _ => failAhead .trailingCharacters
  | none => failAhead .eofObject

def finish : ReadM Unit := do
  match ← skipBlanks with
  | some _ => failAhead .trailingCharacters
  | none => pure ()

/-! ## Untyped values -/

/-- Reads any value, keeping number kinds and sorting object members. -/
def value : Nat → ReadM Json
  | 0 => fail .recursionLimit
  | fuel + 1 => do
    match ← skipBlanks with
    | none => failAhead .eofValue
    | some b =>
      if b == 110 then eat; expectIdent [117, 108, 108]; return .null
      else if b == 116 then eat; expectIdent [114, 117, 101]; return .bool true
      else if b == 102 then eat; expectIdent [97, 108, 115, 101]; return .bool false
      else if b == 45 then
        eat
        return numberJson (← number false)
      else if 48 ≤ b ∧ b ≤ 57 then return numberJson (← number true)
      else if b == 34 then eat; return .str (← stringBody)
      else if b == 91 then
        open_
        let items ← elements fuel true []
        endList
        close
        return .arr items
      else if b == 123 then
        open_
        let fields ← members fuel true []
        endObject
        close
        return Json.ofFields fields
      else failAhead .expectedSomeValue
where
  numberJson : Number → Json
    | .nat n => .nat n
    | .neg i => .neg i
    | .float x => .float x
  elements : Nat → Bool → List Json → ReadM (List Json)
    | 0, _, _ => fail .recursionLimit
    | fuel + 1, first, acc => do
      if ← hasNextElement first then
        let v ← value fuel
        elements fuel false (acc ++ [v])
      else return acc
  members : Nat → Bool → List (String × Json) → ReadM (List (String × Json))
    | 0, _, _ => fail .recursionLimit
    | fuel + 1, first, acc => do
      if ← hasNextKey first then
        let k ← key
        colon
        let v ← value fuel
        members fuel false (acc ++ [(k, v)])
      else return acc

/-! ## Skipped values

A value that no reader looks at, such as the member of an unknown field, is only checked
for its shape. Its numbers are not converted, so they may be out of range; its escapes
are not decoded, so a surrogate needs no partner; its nesting has no limit. Skipping
works through the brackets without a value per level, so a comma right before a closing
bracket reads as a missing value (in an array) or key (in an object), and a control
character in a string is reported where it stands.
-/

def skipDigits : Nat → ReadM Nat
  | 0 => pure 0
  | fuel + 1 => do
    let d ← peekOrZero
    if 48 ≤ d ∧ d ≤ 57 then
      eat
      return (← skipDigits fuel) + 1
    else return 0

/-- Skips an exponent: the reader stands at its `e`. -/
def skipExponent : ReadM Unit := do
  eat
  let s ← peekOrZero
  if s == 43 || s == 45 then eat
  match ← next? with
  | some d =>
    if 48 ≤ d ∧ d ≤ 57 then
      let r ← get
      discard <| skipDigits (r.src.size - r.pos)
    else fail .invalidNumber
  | none => fail .invalidNumber

/-- Skips a fraction: the reader stands at its point. -/
def skipFraction : ReadM Unit := do
  eat
  let r ← get
  if (← skipDigits (r.src.size - r.pos)) == 0 then failAhead .invalidNumber
  let e ← peekOrZero
  if e == 101 || e == 69 then skipExponent

/-- Skips a number whose sign, if any, is consumed. -/
def skipNumber : ReadM Unit := do
  match ← next? with
  | some c =>
    if c == 48 then
      let d ← peekOrZero
      if 48 ≤ d ∧ d ≤ 57 then failAhead .invalidNumber
    else if 49 ≤ c ∧ c ≤ 57 then
      let r ← get
      discard <| skipDigits (r.src.size - r.pos)
    else fail .invalidNumber
  | none => fail .invalidNumber
  let b ← peekOrZero
  if b == 46 then skipFraction
  else if b == 101 || b == 69 then skipExponent

/-- Skips the rest of a string whose opening quote is consumed. -/
def skipString : ReadM Unit := do
  let r ← get
  go (r.src.size - r.pos + 1)
where
  go : Nat → ReadM Unit
    | 0 => fail .eofString
    | fuel + 1 => do
      match ← peek? with
      | none => fail .eofString
      | some b =>
        if b == 34 then eat
        else if b == 92 then
          eat
          match ← next? with
          | none => fail .eofString
          | some c =>
            if c == 34 || c == 92 || c == 47 || c == 98 || c == 102 || c == 110 || c == 114 ||
                c == 116 then go fuel
            else if c == 117 then
              discard hex4
              go fuel
            else fail .invalidEscape
        else if b < 32 then fail .controlCharacter
        else
          eat
          go fuel

/-- Skips the start of a value: a whole scalar, or the opening bracket of an array or
object, which it returns. -/
def skipStart : ReadM (Option UInt8) := do
  match ← skipBlanks with
  | none => failAhead .eofValue
  | some b =>
    if b == 110 then eat; expectIdent [117, 108, 108]; return none
    else if b == 116 then eat; expectIdent [114, 117, 101]; return none
    else if b == 102 then eat; expectIdent [97, 108, 115, 101]; return none
    else if b == 45 then eat; skipNumber; return none
    else if 48 ≤ b ∧ b ≤ 57 then skipNumber; return none
    else if b == 34 then eat; skipString; return none
    else if b == 91 || b == 123 then eat; return some b
    else failAhead .expectedSomeValue

def skipKey : ReadM Unit := do
  match ← skipBlanks with
  | some 34 => eat
  | some _ => failAhead .keyMustBeAString
  | none => failAhead .eofObject
  skipString
  match ← skipBlanks with
  | some 58 => eat
  | some _ => failAhead .expectedColon
  | none => failAhead .eofObject

/-- Where skipping stands: where a value starts, or inside the innermost open bracket,
after the bracket itself or after one of its values. -/
inductive SkipAt where
  | start
  | inside (bracket : UInt8) (afterValue : Bool)

/-- Skips on from `at`; `outer` holds the brackets still open around, innermost first. -/
def skipFrom : Nat → SkipAt → List UInt8 → ReadM Unit
  | 0, _, _ => fail .recursionLimit
  | fuel + 1, .start, outer => do
    match ← skipStart with
    | some bracket => skipFrom fuel (.inside bracket false) outer
    | none =>
      match outer with
      | [] => pure ()
      | bracket :: rest => skipFrom fuel (.inside bracket true) rest
  | fuel + 1, .inside bracket afterValue, outer => do
    let isList := bracket == 91
    match ← skipBlanks with
    | none => failAhead (if isList then .eofList else .eofObject)
    | some b =>
      if b == 44 && afterValue then
        eat
        if !isList then skipKey
        skipFrom fuel .start (bracket :: outer)
      else if (b == 93 && isList) || (b == 125 && !isList) then
        eat
        match outer with
        | [] => pure ()
        | next :: rest => skipFrom fuel (.inside next true) rest
      else if afterValue then
        failAhead (if isList then .expectedListCommaOrEnd else .expectedObjectCommaOrEnd)
      else
        if !isList then skipKey
        skipFrom fuel .start (bracket :: outer)

def skip : ReadM Unit := do
  let r ← get
  skipFrom (2 * (r.src.size - r.pos) + 2) .start []

end Reader

def parse (text : String) : Except Error Json :=
  let src := text.toUTF8
  let reader : ReadM Json := do
    let v ← Reader.value (2 * src.size + 2)
    Reader.finish
    return v
  (reader.run.run { src }).1

end ActorSilo.Json
