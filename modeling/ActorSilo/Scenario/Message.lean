import ActorSilo.Message.Codec
import ActorSilo.Scenario.Input
import ActorSilo.Scenario.Output
import ActorSilo.Scenario.Config

/-! # Scenarios about messages

A script describes one message (`msg`) and asks about it: its summary and display
text, its addressing and flags, the outcome its own response gives, whether activations
are on its call chain, the response and rejection built from it, the message after
cache invalidations and clearing its target, and its wire form read back. A script may
instead give a wire form (`from_json`) to read.

The message is made at the start of the clock and looked at a moment later.
-/

namespace ActorSilo.Scenario

def direction (s : String) : Parse Direction :=
  match s with
  | "Request" => pure .request
  | "Response" => pure .response
  | "OneWay" => pure .oneWay
  | _ => throw s!"unknown direction {s}"

/-- How a script's message is read: activations through `act`, a missing target as
`target`, a target activation without a silo as on `home`, and a missing id as `id`. -/
structure MessageReading where
  act : Json → Parse Nat := nat
  target : Option GrainId := none
  home : Option SiloAddress := none
  id : Nat := 0

/-- The message described by a script, at time `now`, read as `how` says. -/
def messageWith (how : MessageReading) (j : Json) (now : Instant) : Build Message := parsed (do
    let target ← match opt j "target", how.target with
      | some t, _ => grain t
      | none, some t => pure t
      | none, none => throw "missing field target"
    let dir ← direction (← strOr j "dir" "Request")
    let sender := opt j "sender"
    let field {α : Type} (k : String) (f : Json → Parse α) : Parse (Option α) :=
      match sender.bind (opt · k) with
      | some v => some <$> f v
      | none => pure none
    let chain ← match opt j "chain" with
      | some c => (← list c).mapM (chainEntryWith how.act)
      | none => pure []
    let inv ← match opt j "cache_inv" with
      | some c => (← list c).mapM address
      | none => pure []
    let placement ← match opt j "placement" with
      | some p => some <$> strategy p
      | none => pure none
    let response ← match opt j "response" with
      | some r => some <$> responseWith how.act r
      | none => pure none
    let targetAct ← match opt j "target_act" with
      | some a => some <$> how.act a
      | none => pure none
    let targetSilo ← match opt j "target_silo" with
      | some s => some <$> silo s
      | none => pure (if targetAct.isSome then how.home else none)
    let body ← match opt j "body" with
      | some b => bytes b
      | none => pure []
    let id ← natOr j "id" how.id
    let iface ← boundedOr j "iface" 32 1
    let method ← boundedOr j "method" 32 1
    let sendingSilo ← field "silo" silo
    let sendingGrain ← field "grain" grain
    let sendingAct ← field "act" how.act
    let flags ← flagsOr j "flags"
    let fresh ← boolOr j "new_placement" false
    let forwards ← boundedOr j "forward_count" 8 0
    let resends ← boundedOr j "resend_count" 8 0
    pure ({
      id := id, direction := dir, targetGrain := target, interfaceId := iface
      methodId := method, body := body, sendingSilo := sendingSilo
      sendingGrain := sendingGrain, sendingActivation := sendingAct, targetSilo := targetSilo
      targetActivation := targetAct, flags := flags, response := response, placement := placement
      isNewPlacement := fresh, callChain := chain, forwardCount := forwards
      resendCount := resends, cacheInvalidation := inv } : Message)) >>= fun m =>
  match opt j "ttl_ms" with
  | none => pure m
  | some t => do
    let ttl ← parsed (duration t)
    match now.add? ttl with
    | some e => pure { m with expiresAt := some e }
    | none => throw (.halted "overflow when adding duration to instant")

/-- The message described by a script, at time `now`. -/
def messageOf (j : Json) (now : Instant) : Build Message := messageWith {} j now

/-- The facts about a message shown by every message answer. -/
def messageFacts (m : Message) (now : Instant) : List (String × Json) :=
  [("msg", messageJson m), ("display", .str m.render), ("request_like", .bool m.isRequestLike),
   ("read_only", .bool m.isReadOnly), ("always_interleave", .bool m.isAlwaysInterleave),
   ("fully_addressed", .bool m.isFullyAddressed), ("expired", .bool (m.isExpired now)),
   ("target_address", textOr (m.targetAddress.map ActivationAddress.render)),
   ("sending_address", textOr (m.sendingAddress.map ActivationAddress.render)),
   ("rejection_type", textOr (m.rejectionKind.map RejectionKind.name)),
   ("result", resultJson (Response.toResult m.response))]

/-- The answers about a described message, made at the start of the clock. A moment
passes between making the message and asking about it, so a message made to live for no
time at all has expired. -/
def messageAnswer (j : Json) (m : Message) : Parse Json := do
  let now : Instant := 1
  let mut out := messageFacts m now
  if let some c := opt j "contains" then
    let ids ← (← list c).mapM nat
    out := out ++ [("contains", .arr (ids.map fun a => .bool (m.callChainContains a)))]
  if let some r := opt j "respond" then
    let reply := m.createResponse (← response r)
    out := out ++ [("reply", messageJson reply), ("reply_result", resultJson (Response.toResult reply.response))]
  if let some r := opt j "reject" then
    let rejection := m.createRejection (← rejectionKind (← str (← req r "kind"))) (← strOr r "reason" "")
    out := out ++ [("rejection", messageJson rejection),
      ("rejection_kind", textOr (rejection.rejectionKind.map RejectionKind.name))]
  let inv ← match opt j "invalidate" with
    | some l => (← list l).mapM address
    | none => pure []
  let after := inv.foldl Message.addCacheInvalidation m
  let after := if ← boolOr j "clear" false then after.clearTargetAddress else after
  out := out ++ [("after", messageJson after)]
  if ← boolOr j "serde" false then
    let wire := m.toJson
    out := out ++ [("serde", wire)]
    match Message.parse (Json.compact wire) with
    | .ok back => out := out ++ [("roundtrip", messageJson back)]
    | .error e => out := out ++ [("roundtrip", failureJson "serde_json::Error" e.render)]
  pure (Json.ofFields out)

def messageScenario (j : Json) : Build Json := do
  if let some doc := opt j "from_json" then
    match Message.parse (documentText doc) with
    | .ok m => pure (.obj [("display", .str m.render), ("msg", messageJson m)])
    | .error e => pure (failureJson "serde_json::Error" e.render)
  else
    let m ← messageOf (← parsed (req j "msg")) 0
    parsed (messageAnswer j m)

end ActorSilo.Scenario
