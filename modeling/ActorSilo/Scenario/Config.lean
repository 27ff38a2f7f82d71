import ActorSilo.Config.Codec
import ActorSilo.Json.Write
import ActorSilo.Scenario.Input
import ActorSilo.Scenario.Output

/-! # Scenarios about configurations

A configuration comes from a JSON document (`json`: a text read as it is, or a value
read from its compact text) or from builder calls over the defaults (`builder`). The
answer shows the configuration as JSON, the age limits of the named types, both
mailbox limits, the callback timer period and whether it equals the defaults. A
document that cannot be read is answered with the reader's error.
-/

namespace ActorSilo.Scenario

/-- The argument at `i` of a builder call, read by `read`. A call may carry more
arguments than it reads; a missing one is refused with the name of the type it should
have. -/
def callArgument {α : Type} (args : List Json) (i : Nat) (type : String) (read : Json → Parse α) :
    Parse α :=
  match args[i]? with
  | some j => read j
  | none => throw type

/-- The argument read by `read?`, refused with the name of its type when it is not one. -/
def plainArgument {α : Type} (type : String) (read? : Json → Option α) (j : Json) : Parse α :=
  match read? j with
  | some a => pure a
  | none => throw type

/-- A 64-bit word: a JSON number below `2^64`, or its decimal text. Text that is not one
is refused as such; any other value with the type's name. -/
def wordArgument (j : Json) : Parse Nat :=
  match j with
  | .nat n => if n < Nat.pow 2 64 then pure n else throw "u64"
  | .str s =>
    match wordText? s with
    | some n => pure n
    | none => throw ("not a u64: " ++ s)
  | _ => throw "u64"

/-- A byte count: a word below 256. -/
def byteArgument (j : Json) : Parse Nat := do
  let n ← wordArgument j
  if n < 256 then pure n else throw "u8"

/-- Milliseconds as a word, or `"max"` for the longest duration. -/
def millisArgument (j : Json) : Parse Duration :=
  match j with
  | .str "max" => pure Duration.max
  | other => Duration.ofMillis <$> wordArgument other

/-- A binary64 number: any JSON number. -/
def float? (j : Json) : Option Float :=
  match j with
  | .nat n => some (Float.ofNat n)
  | .neg i => some (-(Float.ofNat i.natAbs))
  | .float x => some x
  | _ => none

def flag? (j : Json) : Option Bool :=
  match j with
  | .bool b => some b
  | _ => none

def text? (j : Json) : Option String :=
  match j with
  | .str s => some s
  | _ => none

/-- One builder call: `[name, arguments…]`, the name a text. -/
def setting (j : Json) : Parse SiloConfig.Setting := do
  match ← list j with
  | [] => throw "empty builder call"
  | n :: args =>
    let name ← str n
    let ms i := callArgument args i "u64" millisArgument
    let byte i := callArgument args i "u8" byteArgument
    let flag i := callArgument args i "bool" (plainArgument "bool" flag?)
    let rate i := callArgument args i "f64" (plainArgument "f64" float?)
    let count i := callArgument args i "u64" wordArgument
    match name with
    | "response_timeout_ms" => pure (.responseTimeout (← ms 0))
    | "resend_on_timeout" => pure (.resendOnTimeout (← flag 0))
    | "max_resend_count" => pure (.maxResendCount (← byte 0))
    | "max_forward_count" => pure (.maxForwardCount (← byte 0))
    | "deadlock_detection" => pure (.deadlockDetection (← flag 0))
    | "fault_injection" =>
      let r ← rate 0
      let l ← rate 1
      let seed ← match args[2]? with
        | none | some .null => pure none
        | some _ => some <$> callArgument args 2 "u64" wordArgument
      pure (.faultInjection r l seed)
    | "collection_quantum_ms" => pure (.collectionQuantum (← ms 0))
    | "default_age_limit_ms" => pure (.defaultAgeLimit (← ms 0))
    | "age_limit" => pure (.ageLimit (← callArgument args 0 "str" (plainArgument "str" text?)) (← ms 1))
    | "max_keep_alive_ms" => pure (.maxKeepAlive (← ms 0))
    | "max_enqueued_requests" => pure (.maxEnqueuedRequests (← count 0) (← count 1))
    | "max_enqueued_requests_stateless_worker" =>
      pure (.maxEnqueuedRequestsStatelessWorker (← count 0) (← count 1))
    | other => throw s!"unknown builder call {other}"

/-- The text of a document given as text or as a value. -/
def documentText (j : Json) : String :=
  match j with
  | .str s => s
  | other => Json.compact other

def readerError (e : Json.Error) : Json := failureJson "serde_json::Error" e.render

/-- The configuration a script describes, or the reader's error. -/
def configOf (j : Json) : Parse (Except Json.Error SiloConfig) := do
  match opt j "json" with
  | some doc => pure (SiloConfig.parse (documentText doc))
  | none =>
    let calls ← match opt j "builder" with
      | some b => list b
      | none => pure []
    pure (.ok (SiloConfig.build (← calls.mapM setting)))

def configFacts (c : SiloConfig) (names : List String) : Json :=
  .obj [("age_limit_for", Json.ofFields (names.map fun n => (n, (c.collection.ageLimitFor n).toJson))),
    ("config", c.toJson), ("equals_default", .bool (c.same {})),
    ("limit_grain", (c.limits.forGrain false).toJson),
    ("limit_worker", (c.limits.forGrain true).toJson),
    ("timer_period", (CallbackConfig.ofMessaging c.messaging).timerPeriod.toJson)]

/-- The configuration scenario: the configuration is read first, then the names of the
types whose age limits are asked for. -/
def configuration (j : Json) : Parse Json := do
  match ← configOf j with
  | .ok c =>
    let names ← match opt j "age_limit_for" with
      | some l => (← list l).mapM str
      | none => pure []
    pure (configFacts c names)
  | .error e => pure (readerError e)

end ActorSilo.Scenario
