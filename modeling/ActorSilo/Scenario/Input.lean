import ActorSilo.Json.Value
import ActorSilo.Json.Write
import ActorSilo.Identity
import ActorSilo.Lifecycle
import ActorSilo.Duration
import ActorSilo.Message.Basic
import ActorSilo.Text.Hex

/-! # Reading scenario scripts

A scenario is a JSON object naming an operation and its inputs. This module reads the
common pieces of such inputs into the library's values: numbers given as JSON numbers or
decimal strings, silos as `[port, generation]`, grains as `[type, key]` or
`[type, key, kind]`, activation addresses as `[silo, grain, activation]`, flags as names
or a word, byte strings as `{"hex"}`, `{"text"}` or `{"i64"}`, durations as milliseconds
or `"max"`, and responses.

A script that does not have the expected shape is refused with a message; the message
is for the script's author and does not come from the silo.
-/

namespace ActorSilo.Scenario

/-- Reading a script: the failure is a refusal of the script. -/
abbrev Parse := Except String

/-- Why a script cannot run: it asks for something the library refuses. -/
inductive Refusal where
  | badInput (why : String)
  | halted (why : String)

/-- Reading a script whose values may also make the library stop. -/
abbrev Build := Except Refusal

/-- A reading step that cannot make the library stop. -/
def parsed {α : Type} (p : Parse α) : Build α :=
  match p with
  | .ok a => .ok a
  | .error e => .error (.badInput e)

/-- The member `k`, absent when missing or `null`. -/
def opt (j : Json) (k : String) : Option Json :=
  match j.get? k with
  | some .null => none
  | other => other

/-- The member `k`, which must be given. -/
def req (j : Json) (k : String) : Parse Json :=
  match opt j k with
  | some v => pure v
  | none => throw s!"missing field {k}"

/-- The value of a decimal text of a word: digits, possibly after a plus sign. -/
def wordText? (s : String) : Option Nat :=
  let ds := match s.toList with
    | '+' :: rest => rest
    | all => all
  if !ds.isEmpty && ds.all Char.isDigit then
    let n := ds.foldl (fun acc c => acc * 10 + (c.toNat - '0'.toNat)) 0
    if n < Nat.pow 2 64 then some n else none
  else none

/-- A word: a JSON number or a decimal string below 2^64. A refusal quotes a string as
it is and any other value as compact JSON. -/
def nat (j : Json) : Parse Nat :=
  let shown := match j with
    | .str s => s
    | other => Json.compact other
  let refused : Parse Nat := throw ("not a u64: " ++ shown)
  match j with
  | .nat n => if n < Nat.pow 2 64 then pure n else refused
  | .str s => match wordText? s with
    | some n => pure n
    | none => refused
  | _ => refused

def int (j : Json) : Parse Int :=
  match j with
  | .nat n => pure n
  | .neg i => pure i
  | .str s => match s.toInt? with
    | some n => pure n
    | none => throw s!"not a number: {s}"
  | _ => throw "not a number"

def bool (j : Json) : Parse Bool :=
  match j with
  | .bool b => pure b
  | _ => throw "not a boolean"

def str (j : Json) : Parse String :=
  match j with
  | .str s => pure s
  | other => throw ("not a string: " ++ Json.compact other)

def list (j : Json) : Parse (List Json) :=
  match j with
  | .arr xs => pure xs
  | other => throw ("not an array: " ++ Json.compact other)

/-- The natural number `k`, or `d` when absent. -/
def natOr (j : Json) (k : String) (d : Nat) : Parse Nat :=
  match opt j k with
  | some v => nat v
  | none => pure d

/-- The truth value `k`, or `d` when it is absent or not a truth value. -/
def boolOr (j : Json) (k : String) (d : Bool) : Parse Bool :=
  match opt j k with
  | some (.bool b) => pure b
  | _ => pure d

/-- The word `k` below `2^bits`, or `d` when absent; a larger one is out of the range
of the unsigned type of that many bits. -/
def boundedOr (j : Json) (k : String) (bits d : Nat) : Parse Nat := do
  let n ← natOr j k d
  if Nat.pow 2 bits ≤ n then throw (k ++ " out of u" ++ toString bits ++ " range")
  pure n

/-- The text `k`, or `d` when absent. -/
def strOr (j : Json) (k : String) (d : String) : Parse String :=
  match opt j k with
  | some v => str v
  | none => pure d

/-- A silo: `[port, generation]` on the loopback address, the port below `2^16`. -/
def silo (j : Json) : Parse SiloAddress := do
  match j with
  | .arr [p, g] =>
    let port ← nat p
    if 65536 ≤ port then throw "port out of range"
    pure (SiloAddress.localhost port (← nat g))
  | _ => throw "silo is [port, generation]"

def grainKind (s : String) : Parse GrainKind :=
  match s with
  | "grain" => pure .grain
  | "system" => pure .system
  | "client" => pure .client
  | _ => throw s!"unknown grain kind {s}"

/-- A grain: `[type, key]` or `[type, key, kind]`. -/
def grain (j : Json) : Parse GrainId := do
  match j with
  | .arr [t, k] => pure ⟨← nat t, ← str k, .grain⟩
  | .arr [t, k, kind] => pure ⟨← nat t, ← str k, ← grainKind (← str kind)⟩
  | _ => throw "grain is [type, key] or [type, key, kind]"

/-- An activation address: `[silo, grain, activation]`. -/
def address (j : Json) : Parse ActivationAddress := do
  match j with
  | .arr [s, g, a] => pure ⟨← silo s, ← grain g, ← nat a⟩
  | _ => throw "address is [silo, grain, activation]"

def flagBit (s : String) : Parse Nat :=
  match s with
  | "read_only" => pure MessageFlags.readOnly
  | "always_interleave" => pure MessageFlags.alwaysInterleave
  | "local_only" => pure MessageFlags.localOnly
  | "suppress_keep_alive" => pure MessageFlags.suppressKeepAlive
  | _ => throw s!"unknown flag {s}"

/-- Flags: a list of names, or a JSON number below `2^16` whose unknown bits are
dropped. -/
def flags (j : Json) : Parse MessageFlags := do
  match j with
  | .nat n =>
    if 65536 ≤ n then throw "flag bits out of u16 range"
    pure (MessageFlags.ofBits n)
  | .arr names =>
    let bits ← names.mapM fun n => do flagBit (← str n)
    pure (MessageFlags.ofBits (bits.foldl (fun acc b => acc ||| b) 0))
  | other => throw ("not an array: " ++ Json.compact other)

/-- The flags `k`, empty when absent. -/
def flagsOr (j : Json) (k : String) : Parse MessageFlags :=
  match opt j k with
  | some v => flags v
  | none => pure .empty

/-- A signed 64-bit integer given as a JSON number. -/
def int64 (j : Json) : Parse Int :=
  match j with
  | .nat n => if n < Nat.pow 2 63 then pure n else throw "i64 expected"
  | .neg i => if -(Int.pow 2 63) ≤ i then pure i else throw "i64 expected"
  | _ => throw "i64 expected"

def hexBytes (s : String) : Parse (List UInt8) :=
  match Text.bytesOfHex s with
  | .ok bs => pure bs
  | .error e => throw e.message

/-- Bytes: `{"hex": …}`, `{"text": …}` or `{"i64": n}` (eight bytes, little-endian),
tried in this order; a member that is `null` counts as absent, and a value with none of
them stands for no bytes. -/
def bytes (j : Json) : Parse (List UInt8) := do
  if let some h := opt j "hex" then hexBytes (← str h)
  else if let some t := opt j "text" then pure (← str t).toUTF8.toList
  else if let some i := opt j "i64" then pure (Text.bytesOfInt64 (← int64 i))
  else pure []

/-- A duration: whole milliseconds, or `"max"` for the longest duration. -/
def duration (j : Json) : Parse Duration :=
  match j with
  | .str "max" => pure Duration.max
  | other => do pure (Duration.ofMillis (← nat other))

/-- The duration `k`, or `d` when absent. -/
def durationOr (j : Json) (k : String) (d : Duration) : Parse Duration :=
  match opt j k with
  | some v => duration v
  | none => pure d

def activationState (s : String) : Parse ActivationState :=
  match ActivationState.all.find? (·.name == s) with
  | some st => pure st
  | none => throw s!"unknown state {s}"

def reason (s : String) : Parse DeactivationReason :=
  match DeactivationReason.all.find? (·.name == s) with
  | some r => pure r
  | none => throw s!"unknown reason {s}"

def siloStatus (s : String) : Parse SiloStatus :=
  match SiloStatus.all.find? (·.name == s) with
  | some st => pure st
  | none => throw s!"unknown status {s}"

def rejectionKind (s : String) : Parse RejectionKind :=
  match RejectionKind.all.find? (·.name == s) with
  | some k => pure k
  | none => throw s!"unknown rejection {s}"

/-- A placement strategy: a name, `{"Local": {"min", "max"}}` or `{"Explicit": silo}`. -/
def strategy (j : Json) : Parse PlacementStrategy := do
  match j with
  | .str "Random" => pure .random
  | .str "PreferLocal" => pure .preferLocal
  | .str "LoadAware" => pure .loadAware
  | .str "GraphPartition" => pure .graphPartition
  | other =>
    if let some l := opt other "Local" then
      pure (.local_ (← nat (← req l "min")) (← nat (← req l "max")))
    else if let some s := opt other "Explicit" then
      pure (.explicit (← silo s))
    else throw ("unknown strategy " ++ match other with
      | .str name => name
      | _ => Json.compact other)

/-- A call chain entry: `[grain, activation, interface?, method?]`, its activation read
by `act`; the interface and method are taken modulo `2^32`. -/
def chainEntryWith (act : Json → Parse Nat) (j : Json) : Parse CallChainEntry := do
  match j with
  | .arr (g :: a :: rest) =>
    let iface ← match rest with
      | i :: _ => nat i
      | [] => pure 0
    let method ← match rest with
      | _ :: m :: _ => nat m
      | _ => pure 0
    pure ⟨← grain g, ← act a, iface % Nat.pow 2 32, method % Nat.pow 2 32⟩
  | _ => throw "a chain entry is [grain, activation, interface?, method?]"

/-- A call chain entry: `[grain, activation, interface?, method?]`. -/
def chainEntry (j : Json) : Parse CallChainEntry := chainEntryWith nat j

/-- A response: `{"success"}`, `{"application"}`, `{"deadlock"}`, `{"timeout_ms"}` or
`{"rejection", "reason"}`, tried in this order; a member present, `null` included, must
have its shape. The activations of a deadlock's chain are read by `act`. -/
def responseWith (act : Json → Parse Nat) (j : Json) : Parse Response := do
  if let some h := j.get? "success" then
    pure (.success (← hexBytes (← str h)))
  else if let some t := j.get? "application" then
    pure (.fault (.application (← str t)))
  else if let some c := j.get? "deadlock" then
    pure (.fault (.deadlock (← (← list c).mapM (chainEntryWith act))))
  else if let some ms := j.get? "timeout_ms" then
    pure (.fault (.timeout (← duration ms)))
  else if let some k := j.get? "rejection" then
    pure (.rejection (← rejectionKind (← str k)) (← strOr j "reason" ""))
  else throw "unknown response"

/-- A response whose deadlock chain names activations by number. -/
def response (j : Json) : Parse Response := responseWith nat j

end ActorSilo.Scenario
