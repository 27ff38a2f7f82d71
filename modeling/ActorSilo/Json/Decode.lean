import ActorSilo.Json.Syntax
import ActorSilo.Text.Decimal
import ActorSilo.Text.Quoted

/-! # Typed reading of JSON text

Typed readers turn JSON text into the library's values, failing at the first place the text does
not fit: unsigned integers of a width, binary64, booleans, strings, optional values, arrays,
string-keyed objects (`Decode.map`), records whose fields come in any order or as an array
(`Decode.record`), and tagged choices (`Decode.variant`).
-/

namespace ActorSilo.Json

/-- What a value turned out to be, as "invalid type" and "invalid value" messages say. -/
inductive Unexpected where
  | null
  | bool (b : Bool)
  | unsigned (n : Nat)
  | signed (i : Int)
  | float (x : Float)
  | str (s : String)
  | seq
  | map
  | unitVariant
  | newtypeVariant
  | structVariant

namespace Unexpected

/-- A float in messages: its shortest digits, with `e+` before a positive exponent. -/
def floatText (x : Float) : String := Text.Decimal.renderMarked x

def describe : Unexpected → String
  | null => "null"
  | bool b => s!"boolean `{b}`"
  | unsigned n => s!"integer `{n}`"
  | signed i => s!"integer `{i}`"
  | float x => "floating point `" ++ floatText x ++ "`"
  | str s => "string " ++ Text.quoted s
  | seq => "sequence"
  | map => "map"
  | unitVariant => "unit variant"
  | newtypeVariant => "newtype variant"
  | structVariant => "struct variant"

end Unexpected

/-- The names of a list of alternatives: `` `a` ``, `` `a` or `b` ``, `` one of `a`, `b`, `c` ``. -/
def oneOf (names : List String) : String :=
  match names with
  | [a] => "`" ++ a ++ "`"
  | [a, b] => "`" ++ a ++ "` or `" ++ b ++ "`"
  | _ => "one of " ++ ", ".intercalate (names.map fun n => "`" ++ n ++ "`")

namespace Error

def invalidType (u : Unexpected) (expected : String) : Error :=
  { message := s!"invalid type: {u.describe}, expected {expected}" }

/-- A value of the right kind but out of range. -/
def invalidValue (u : Unexpected) (expected : String) : Error :=
  { message := s!"invalid value: {u.describe}, expected {expected}" }

def invalidLength (n : Nat) (expected : String) : Error :=
  { message := s!"invalid length {n}, expected {expected}" }

def duplicateField (name : String) : Error := { message := s!"duplicate field `{name}`" }

def missingField (name : String) : Error := { message := s!"missing field `{name}`" }

/-- A choice name that is not one of the choices. -/
def unknownVariant (name : String) (names : List String) : Error :=
  if names.isEmpty then { message := s!"unknown variant `{name}`, there are no variants" }
  else { message := s!"unknown variant `{name}`, expected {oneOf names}" }

/-- A member name that is not one of the fields. -/
def unknownField (name : String) (names : List String) : Error :=
  if names.isEmpty then { message := s!"unknown field `{name}`, there are no fields" }
  else { message := s!"unknown field `{name}`, expected {oneOf names}" }

end Error

namespace Decode

open Reader

/-- Runs a reader; a failure without a position gets the position where it stopped. -/
def placing {α : Type} (x : ReadM α) : ReadM α :=
  tryCatch x fun e => do throw (← placed e)

/-- Fails with `e`, placed at the reading position unless it has a place. -/
def failWith {α : Type} (e : Error) : ReadM α := do throw (← placed e)

def check {α : Type} : Except Error α → ReadM α
  | .ok a => pure a
  | .error e => throw e

/-- The failure for a value of the wrong kind at the reading position: a scalar is read
to describe it, an array or object is not. -/
def wrongKind (expected : String) : ReadM Error := do
  let b ← peekOrZero
  let u ←
    if b == 110 then do eat; expectIdent [117, 108, 108]; pure Unexpected.null
    else if b == 116 then do eat; expectIdent [114, 117, 101]; pure (Unexpected.bool true)
    else if b == 102 then do eat; expectIdent [97, 108, 115, 101]; pure (Unexpected.bool false)
    else if b == 45 then do eat; pure (describeNumber (← number false))
    else if 48 ≤ b ∧ b ≤ 57 then do pure (describeNumber (← number true))
    else if b == 34 then do eat; pure (Unexpected.str (← stringBody))
    else if b == 91 then pure Unexpected.seq
    else if b == 123 then pure Unexpected.map
    else failAhead .expectedSomeValue
  placed (Error.invalidType u expected)
where
  describeNumber : Number → Unexpected
    | .nat n => .unsigned n
    | .neg i => .signed i
    | .float x => .float x

/-- Reads a number and hands it to `visit`. -/
def numberWith {α : Type} (expected : String) (visit : Number → Except Error α) : ReadM α :=
  placing do
    match ← skipBlanks with
    | none => failAhead .eofValue
    | some b =>
      if b == 45 then eat; check (visit (← number false))
      else if 48 ≤ b ∧ b ≤ 57 then check (visit (← number true))
      else throw (← wrongKind expected)

/-- An unsigned integer below `2^bits`, named `name` in messages. -/
def unsigned (bits : Nat) (name : String) : ReadM Nat :=
  numberWith name fun
    | .nat n => if n < Nat.pow 2 bits then .ok n else .error (Error.invalidValue (.unsigned n) name)
    | .neg i => .error (Error.invalidValue (.signed i) name)
    | .float x => .error (Error.invalidType (.float x) name)

def u8 : ReadM Nat := unsigned 8 "u8"
def u16 : ReadM Nat := unsigned 16 "u16"
def u32 : ReadM Nat := unsigned 32 "u32"
def u64 : ReadM Nat := unsigned 64 "u64"
/-- An unsigned machine-word integer (64 bits). -/
def usize : ReadM Nat := unsigned 64 "usize"

/-- A binary64 number; integers are converted. -/
def f64 : ReadM Float :=
  numberWith "f64" fun
    | .nat n => .ok (Float.ofNat n)
    | .neg i => .ok (-(Float.ofNat i.natAbs))
    | .float x => .ok x

def bool : ReadM Bool :=
  placing do
    match ← skipBlanks with
    | none => failAhead .eofValue
    | some b =>
      if b == 116 then eat; expectIdent [114, 117, 101]; pure true
      else if b == 102 then eat; expectIdent [97, 108, 115, 101]; pure false
      else throw (← wrongKind "a boolean")

/-- A string, handed to `visit`; `expected` names what `visit` accepts. -/
def stringWith {α : Type} (expected : String) (visit : String → Except Error α) : ReadM α :=
  placing do
    match ← skipBlanks with
    | none => failAhead .eofValue
    | some b =>
      if b == 34 then eat; check (visit (← stringBody))
      else throw (← wrongKind expected)

def string : ReadM String := stringWith "a string" .ok

/-- An optional value: `null` for none. -/
def option {α : Type} (x : ReadM α) : ReadM (Option α) := do
  match ← skipBlanks with
  | some 110 => eat; expectIdent [117, 108, 108]; pure none
  | _ => some <$> x

/-- Runs `body` inside brackets: on failure the closing bracket is still looked for,
and the first failure wins. -/
def bracketed {α : Type} (body : ReadM α) (closing : ReadM Unit) : ReadM α := do
  open_
  let r ← tryCatch (Sum.inl <$> body) (fun e => pure (Sum.inr e))
  match r with
  | .inl v => closing; close; pure v
  | .inr e =>
    tryCatch closing (fun _ => pure ())
    throw e

def seq {α : Type} (item : ReadM α) : ReadM (List α) :=
  placing do
    match ← skipBlanks with
    | none => failAhead .eofValue
    | some b =>
      if b == 91 then
        let r ← get
        bracketed (items true [] (r.src.size - r.pos + 1)) endList
      else throw (← wrongKind "a sequence")
where
  items (first : Bool) (acc : List α) : Nat → ReadM (List α)
    | 0 => pure acc
    | fuel + 1 => do
      if ← hasNextElement first then
        let v ← item
        items false (acc ++ [v]) fuel
      else pure acc

/-- Skips one value of any kind, checking only its shape. -/
def skipValue : ReadM Unit := Reader.skip

/-- An object with string keys; a later duplicate key replaces the earlier member. -/
def map {α : Type} (val : ReadM α) : ReadM (List (String × α)) :=
  placing do
    match ← skipBlanks with
    | none => failAhead .eofValue
    | some b =>
      if b == 123 then
        let r ← get
        bracketed (entries true [] (r.src.size - r.pos + 1)) endObject
      else throw (← wrongKind "a map")
where
  entries (first : Bool) (acc : List (String × α)) : Nat → ReadM (List (String × α))
    | 0 => pure acc
    | fuel + 1 => do
      if ← hasNextKey first then
        let k ← key
        colon
        let v ← val
        entries false ((acc.filter (·.1 != k)) ++ [(k, v)]) fuel
      else pure acc

/-- One field of a record: its name and how its value updates the partial record. -/
structure Field (S : Type) where
  name : String
  read : S → ReadM S

/-- Which fields a record gave: by name in an object, or the first so many in an array. -/
inductive Given where
  | members (names : List String)
  | elements (count : Nat)

namespace Given

/-- Checks that the needed fields were given. In an object the first missing field of
`needed` (in declaration order) is reported; in an array every one of the `total`
fields is needed, and a short array is reported with `expected`. -/
def require (g : Given) (expected : String) (needed : List String) (total : Nat) :
    Except Error Unit :=
  match g with
  | .members names =>
    match needed.find? (fun n => !names.contains n) with
    | some n => .error (Error.missingField n)
    | none => .ok ()
  | .elements count =>
    if count < total then .error (Error.invalidLength count expected) else .ok ()

end Given

/-- A record: an object of known fields or an array of the fields in order. Reading
starts from `init`; `finish` turns the partial record into the value, knowing which
fields were given (it reports missing ones). `expected` is the record's name in
messages (`struct Name`). Members of other names are skipped, unless `strict` lists the
names the record takes: then they are refused. -/
def record {S α : Type} (expected : String) (fields : List (Field S)) (init : S)
    (finish : S → Given → Except Error α) (strict : Option (List String)) : ReadM α :=
  placing do
    match ← skipBlanks with
    | none => failAhead .eofValue
    | some b =>
      if b == 123 then
        let r ← get
        let (s, seen) ← bracketed (members true [] init (r.src.size - r.pos + 1)) endObject
        check (finish s (.members seen))
      else if b == 91 then
        let (s, n) ← bracketed (elements true fields init 0) endList
        check (finish s (.elements n))
      else throw (← wrongKind expected)
where
  members (first : Bool) (seen : List String) (s : S) : Nat → ReadM (S × List String)
    | 0 => pure (s, seen)
    | fuel + 1 => do
      if ← hasNextKey first then
        let k ← key
        match fields.find? (·.name == k) with
        | some f =>
          if seen.contains k then throw (Error.duplicateField k)
          colon
          let s' ← f.read s
          members false (k :: seen) s' fuel
        | none =>
          if let some names := strict then throw (Error.unknownField k names)
          colon
          skipValue
          members false seen s fuel
      else pure (s, seen)
  elements (first : Bool) : List (Field S) → S → Nat → ReadM (S × Nat)
    | [], s, n => pure (s, n)
    | f :: rest, s, n => do
      if ← hasNextElement first then
        let s' ← f.read s
        elements false rest s' (n + 1)
      else pure (s, n)

/-- A choice of a tagged value: its name and its content. -/
inductive Choice (α : Type) where
  | plain (name : String) (value : α)
  /-- A choice with one value as content. -/
  | wrapped (name : String) (read : ReadM α)
  /-- A choice whose content is a record. -/
  | fields (name : String) (read : ReadM α)

namespace Choice

def name {α : Type} : Choice α → String
  | plain n _ => n
  | wrapped n _ => n
  | fields n _ => n

end Choice

def choiceName {α : Type} (choices : List (Choice α)) : ReadM (Choice α) :=
  stringWith "variant identifier" fun s =>
    match choices.find? (·.name == s) with
    | some c => .ok c
    | none => .error (Error.unknownVariant s (choices.map (·.name)))

/-- A tagged value: `"Name"` for a choice without content, `{"Name": content}`. -/
def variant {α : Type} (choices : List (Choice α)) : ReadM α := do
  match ← skipBlanks with
  | none => failAhead .eofValue
  | some b =>
    if b == 123 then
      open_
      let c ← choiceName choices
      colon
      let v ← match c with
        | .plain _ v => do unit; pure v
        | .wrapped _ read => read
        | .fields _ read => read
      close
      match ← skipBlanks with
      | some 125 => eat; pure v
      | some _ => fail .expectedSomeValue
      | none => fail .eofObject
    else if b == 34 then
      match ← choiceName choices with
      | .plain _ v => pure v
      | .wrapped _ _ => throw (Error.invalidType .unitVariant "newtype variant")
      | .fields _ _ => throw (Error.invalidType .unitVariant "struct variant")
    else failAhead .expectedSomeValue
where
  unit : ReadM Unit :=
    placing do
      match ← skipBlanks with
      | none => failAhead .eofValue
      | some b =>
        if b == 110 then eat; expectIdent [117, 108, 108]
        else throw (← wrongKind "unit")

/-- Reads a whole text with `x`: only blanks may follow the value. -/
def run {α : Type} (x : ReadM α) (text : String) : Except Error α :=
  let reader : ReadM α := do
    let v ← x
    finish
    pure v
  (reader.run.run { src := text.toUTF8 }).1

end Decode

end ActorSilo.Json
