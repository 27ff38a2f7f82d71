import ActorSilo.Message.Basic
import ActorSilo.Json.Duration
import ActorSilo.Json.Syntax

/-! # Messages as JSON

The wire form of a message and of everything it holds. Records are objects of their
snake-case field names (or arrays of the fields in order); choices are tagged:
`"Request"` for a choice without content, `{"Success": [1, 2]}` for one with a value,
`{"Rejection": {"kind": …, "reason": …}}` for one with fields. A silo is
`{"endpoint": "127.0.0.1:1", "generation": 1}`, identifiers are plain numbers, a body
is an array of bytes and flags are their word. The expiry of a message is local to a
silo's clock and is not part of the wire form.

Reading needs every field; a missing optional field is read as absent.
-/

namespace ActorSilo

open Json

namespace SiloAddress

/-- `{"endpoint": text, "generation": g}` with the endpoint's text (`127.0.0.1:1`, `[::1]:80`). -/
def toJson (s : SiloAddress) : Json :=
  .obj [("endpoint", .str s.endpoint.render), ("generation", .nat s.generation)]

def read : ReadM SiloAddress :=
  Decode.record "struct SiloAddress"
    [⟨"endpoint", fun s => do
        pure { s with endpoint := ← Decode.stringWith "socket address" fun t =>
          match Endpoint.parse? t with
          | some e => .ok e
          | none => .error { message := "invalid socket address syntax" } }⟩,
     ⟨"generation", fun s => do pure { s with generation := ← Decode.u64 }⟩]
    default
    (fun s given => do
      given.require "struct SiloAddress with 2 elements" ["endpoint", "generation"] 2
      pure s)
    none

end SiloAddress

def GrainKind.read : ReadM GrainKind :=
  Decode.variant [.plain "Grain" .grain, .plain "Client" .client, .plain "System" .system]

namespace GrainId

/-- `{"grain_type": t, "key": k, "kind": "Grain"}`. -/
def toJson (g : GrainId) : Json :=
  .obj [("grain_type", .nat g.grainType), ("key", .str g.key), ("kind", .str g.kind.name)]

def read : ReadM GrainId :=
  Decode.record "struct GrainId"
    [⟨"grain_type", fun g => do pure { g with grainType := ← Decode.u64 }⟩,
     ⟨"key", fun g => do pure { g with key := ← Decode.string }⟩,
     ⟨"kind", fun g => do pure { g with kind := ← GrainKind.read }⟩]
    default
    (fun g given => do
      given.require "struct GrainId with 3 elements" ["grain_type", "key", "kind"] 3
      pure g)
    none

end GrainId

namespace ActivationAddress

/-- `{"activation": n, "grain": …, "silo": …}`. -/
def toJson (a : ActivationAddress) : Json :=
  .obj [("activation", .nat a.activation), ("grain", a.grain.toJson), ("silo", a.silo.toJson)]

def read : ReadM ActivationAddress :=
  Decode.record "struct ActivationAddress"
    [⟨"silo", fun a => do pure { a with silo := ← SiloAddress.read }⟩,
     ⟨"grain", fun a => do pure { a with grain := ← GrainId.read }⟩,
     ⟨"activation", fun a => do pure { a with activation := ← Decode.u64 }⟩]
    default
    (fun a given => do
      given.require "struct ActivationAddress with 3 elements" ["silo", "grain", "activation"] 3
      pure a)
    none

end ActivationAddress

namespace CallChainEntry

/-- `{"activation", "grain", "interface_id", "method_id"}`. -/
def toJson (e : CallChainEntry) : Json :=
  .obj [("activation", .nat e.activation), ("grain", e.grain.toJson),
    ("interface_id", .nat e.interfaceId), ("method_id", .nat e.methodId)]

def read : ReadM CallChainEntry :=
  Decode.record "struct CallChainEntry"
    [⟨"grain", fun e => do pure { e with grain := ← GrainId.read }⟩,
     ⟨"activation", fun e => do pure { e with activation := ← Decode.u64 }⟩,
     ⟨"interface_id", fun e => do pure { e with interfaceId := ← Decode.u32 }⟩,
     ⟨"method_id", fun e => do pure { e with methodId := ← Decode.u32 }⟩]
    default
    (fun e given => do
      given.require "struct CallChainEntry with 4 elements"
        ["grain", "activation", "interface_id", "method_id"] 4
      pure e)
    none

end CallChainEntry

namespace RejectionKind

def read : ReadM RejectionKind :=
  Decode.variant (all.map fun k => .plain k.name k)

end RejectionKind

namespace Direction

def read : ReadM Direction :=
  Decode.variant [.plain "Request" .request, .plain "Response" .response, .plain "OneWay" .oneWay]

end Direction

def bytesJson (bs : List UInt8) : Json := .arr (bs.map fun b => .nat b.toNat)

def readBytes : ReadM (List UInt8) := do
  let ns ← Decode.seq Decode.u8
  pure (ns.map Nat.toUInt8)

namespace GrainFault

/-- `{"Application": t}`, `{"Deadlock": {"chain": …}}` or `{"Timeout": {"after": …}}`. -/
def toJson : GrainFault → Json
  | .application t => .obj [("Application", .str t)]
  | .deadlock c => .obj [("Deadlock", .obj [("chain", .arr (c.map CallChainEntry.toJson))])]
  | .timeout d => .obj [("Timeout", .obj [("after", d.toJson)])]

def read : ReadM GrainFault :=
  Decode.variant
    [.wrapped "Application" (.application <$> Decode.string),
     .fields "Deadlock" (Decode.record "struct variant GrainFault::Deadlock"
        [⟨"chain", fun _ => Decode.seq CallChainEntry.read⟩] []
        (fun c given => do
          given.require "struct variant GrainFault::Deadlock with 1 element" ["chain"] 1
          pure (.deadlock c))
        none),
     .fields "Timeout" (Decode.record "struct variant GrainFault::Timeout"
        [⟨"after", fun _ => Duration.read⟩] Duration.zero
        (fun d given => do
          given.require "struct variant GrainFault::Timeout with 1 element" ["after"] 1
          pure (.timeout d))
        none)]

end GrainFault

namespace Response

/-- `{"Success": bytes}`, `{"Fault": fault}` or `{"Rejection": {"kind", "reason"}}`. -/
def toJson : Response → Json
  | .success b => .obj [("Success", bytesJson b)]
  | .fault f => .obj [("Fault", f.toJson)]
  | .rejection k r => .obj [("Rejection", .obj [("kind", .str k.name), ("reason", .str r)])]

def read : ReadM Response :=
  Decode.variant
    [.wrapped "Success" (.success <$> readBytes),
     .wrapped "Fault" (.fault <$> GrainFault.read),
     .fields "Rejection" (Decode.record "struct variant Response::Rejection"
        [⟨"kind", fun (_, r) => do pure (← RejectionKind.read, r)⟩,
         ⟨"reason", fun (k, _) => do pure (k, ← Decode.string)⟩]
        (RejectionKind.transient, "")
        (fun (k, r) given => do
          given.require "struct variant Response::Rejection with 2 elements" ["kind", "reason"] 2
          pure (.rejection k r))
        none)]

end Response

namespace PlacementStrategy

/-- `"Random"`, `{"Local": {"max", "min"}}`, `{"Explicit": silo}`, …. -/
def toJson : PlacementStrategy → Json
  | .random => .str "Random"
  | .preferLocal => .str "PreferLocal"
  | .local_ min max => .obj [("Local", .obj [("max", .nat max), ("min", .nat min)])]
  | .loadAware => .str "LoadAware"
  | .explicit s => .obj [("Explicit", s.toJson)]
  | .graphPartition => .str "GraphPartition"

def read : ReadM PlacementStrategy :=
  Decode.variant
    [.plain "Random" .random, .plain "PreferLocal" .preferLocal,
     .fields "Local" (Decode.record "struct variant PlacementStrategy::Local"
        [⟨"min", fun (_, b) => do pure (← Decode.usize, b)⟩,
         ⟨"max", fun (a, _) => do pure (a, ← Decode.usize)⟩]
        (0, 0)
        (fun (a, b) given => do
          given.require "struct variant PlacementStrategy::Local with 2 elements" ["min", "max"] 2
          pure (.local_ a b))
        none),
     .plain "LoadAware" .loadAware,
     .wrapped "Explicit" (.explicit <$> SiloAddress.read),
     .plain "GraphPartition" .graphPartition]

end PlacementStrategy

namespace Message

/-- The wire form of a message; the expiry is left out. -/
def toJson (m : Message) : Json :=
  .obj [("body", bytesJson m.body),
    ("cache_invalidation", .arr (m.cacheInvalidation.map ActivationAddress.toJson)),
    ("call_chain", .arr (m.callChain.map CallChainEntry.toJson)),
    ("direction", .str m.direction.name),
    ("flags", .nat m.flags.bits),
    ("forward_count", .nat m.forwardCount),
    ("id", .nat m.id),
    ("interface_id", .nat m.interfaceId),
    ("is_new_placement", .bool m.isNewPlacement),
    ("method_id", .nat m.methodId),
    ("placement", Json.opt PlacementStrategy.toJson m.placement),
    ("resend_count", .nat m.resendCount),
    ("response", Json.opt Response.toJson m.response),
    ("sending_activation", Json.opt .nat m.sendingActivation),
    ("sending_grain", Json.opt GrainId.toJson m.sendingGrain),
    ("sending_silo", Json.opt SiloAddress.toJson m.sendingSilo),
    ("target_activation", Json.opt .nat m.targetActivation),
    ("target_grain", m.targetGrain.toJson),
    ("target_silo", Json.opt SiloAddress.toJson m.targetSilo)]

def fields : List (Decode.Field Message) :=
  [⟨"id", fun m => do pure { m with id := ← Decode.u64 }⟩,
   ⟨"direction", fun m => do pure { m with direction := ← Direction.read }⟩,
   ⟨"sending_silo", fun m => do pure { m with sendingSilo := ← Decode.option SiloAddress.read }⟩,
   ⟨"sending_grain", fun m => do pure { m with sendingGrain := ← Decode.option GrainId.read }⟩,
   ⟨"sending_activation", fun m => do pure { m with sendingActivation := ← Decode.option Decode.u64 }⟩,
   ⟨"target_silo", fun m => do pure { m with targetSilo := ← Decode.option SiloAddress.read }⟩,
   ⟨"target_grain", fun m => do pure { m with targetGrain := ← GrainId.read }⟩,
   ⟨"target_activation", fun m => do pure { m with targetActivation := ← Decode.option Decode.u64 }⟩,
   ⟨"interface_id", fun m => do pure { m with interfaceId := ← Decode.u32 }⟩,
   ⟨"method_id", fun m => do pure { m with methodId := ← Decode.u32 }⟩,
   ⟨"body", fun m => do pure { m with body := ← readBytes }⟩,
   ⟨"response", fun m => do pure { m with response := ← Decode.option Response.read }⟩,
   ⟨"flags", fun m => do pure { m with flags := MessageFlags.ofBits (← Decode.u16) }⟩,
   ⟨"placement", fun m => do pure { m with placement := ← Decode.option PlacementStrategy.read }⟩,
   ⟨"is_new_placement", fun m => do pure { m with isNewPlacement := ← Decode.bool }⟩,
   ⟨"call_chain", fun m => do pure { m with callChain := ← Decode.seq CallChainEntry.read }⟩,
   ⟨"forward_count", fun m => do pure { m with forwardCount := ← Decode.u8 }⟩,
   ⟨"resend_count", fun m => do pure { m with resendCount := ← Decode.u8 }⟩,
   ⟨"cache_invalidation", fun m => do
      pure { m with cacheInvalidation := ← Decode.seq ActivationAddress.read }⟩]

def read : ReadM Message :=
  Decode.record "struct Message" fields default
    (fun m given => do
      given.require "struct Message with 19 elements"
        ["id", "direction", "target_grain", "interface_id", "method_id", "body", "flags",
         "is_new_placement", "call_chain", "forward_count", "resend_count", "cache_invalidation"] 19
      pure m)
    none

def parse (text : String) : Except Json.Error Message := Decode.run read text

end Message

end ActorSilo
