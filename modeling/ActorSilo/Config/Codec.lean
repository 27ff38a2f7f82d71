import ActorSilo.Config.Basic
import ActorSilo.Json.Duration
import ActorSilo.Json.Syntax

/-! # Configurations as JSON

A configuration is an object with the sections `messaging`, `collection` and `limits`,
each an object of its settings under their snake-case names. Every section and every
setting may be left out and then keeps its default; a section may also be an array of
its settings in declaration order, cut short anywhere. A mailbox limit needs all of
`name`, `soft` and `hard`. Members of other names are skipped.

Written back, every setting is present, an absent optional one as `null`, and rates are
floats.
-/

namespace ActorSilo

open Json

/-- A record whose missing members keep the value they start with. -/
private def withDefaults {S : Type} (expected : String) (fields : List (Decode.Field S)) (init : S) :
    ReadM S :=
  Decode.record expected fields init (fun s _ => .ok s) none

namespace LimitValue

/-- `{"hard", "name", "soft"}`. -/
def toJson (l : LimitValue) : Json :=
  .obj [("hard", .nat l.hard), ("name", .str l.name), ("soft", .nat l.soft)]

def read : ReadM LimitValue :=
  Decode.record "struct LimitValue"
    [⟨"name", fun l => do pure { l with name := ← Decode.string }⟩,
     ⟨"soft", fun l => do pure { l with soft := ← Decode.usize }⟩,
     ⟨"hard", fun l => do pure { l with hard := ← Decode.usize }⟩]
    ⟨"", 0, 0⟩
    (fun l given => do
      given.require "struct LimitValue with 3 elements" ["name", "soft", "hard"] 3
      pure l)
    none

end LimitValue

namespace MessagingConfig

def toJson (m : MessagingConfig) : Json :=
  .obj [("fault_injection_seed", Json.opt .nat m.faultInjectionSeed),
    ("lazy_unregister_delay", Json.opt Duration.toJson m.lazyUnregisterDelay),
    ("max_forward_count", .nat m.maxForwardCount),
    ("max_request_processing_time", m.maxRequestProcessingTime.toJson),
    ("max_resend_count", .nat m.maxResendCount),
    ("message_loss_injection_rate", .float m.messageLossInjectionRate),
    ("perform_deadlock_detection", .bool m.performDeadlockDetection),
    ("rejection_injection_rate", .float m.rejectionInjectionRate),
    ("resend_on_timeout", .bool m.resendOnTimeout),
    ("response_timeout", m.responseTimeout.toJson)]

def read : ReadM MessagingConfig :=
  withDefaults "struct MessagingConfig"
    [⟨"response_timeout", fun m => do pure { m with responseTimeout := ← Duration.read }⟩,
     ⟨"resend_on_timeout", fun m => do pure { m with resendOnTimeout := ← Decode.bool }⟩,
     ⟨"max_resend_count", fun m => do pure { m with maxResendCount := ← Decode.u8 }⟩,
     ⟨"max_forward_count", fun m => do pure { m with maxForwardCount := ← Decode.u8 }⟩,
     ⟨"perform_deadlock_detection", fun m => do
        pure { m with performDeadlockDetection := ← Decode.bool }⟩,
     ⟨"max_request_processing_time", fun m => do
        pure { m with maxRequestProcessingTime := ← Duration.read }⟩,
     ⟨"lazy_unregister_delay", fun m => do
        pure { m with lazyUnregisterDelay := ← Decode.option Duration.read }⟩,
     ⟨"rejection_injection_rate", fun m => do
        pure { m with rejectionInjectionRate := ← Decode.f64 }⟩,
     ⟨"message_loss_injection_rate", fun m => do
        pure { m with messageLossInjectionRate := ← Decode.f64 }⟩,
     ⟨"fault_injection_seed", fun m => do
        pure { m with faultInjectionSeed := ← Decode.option Decode.u64 }⟩]
    {}

end MessagingConfig

namespace CollectionConfig

def toJson (c : CollectionConfig) : Json :=
  .obj [("age_limits", Json.ofFields (c.ageLimits.map fun (k, d) => (k, d.toJson))),
    ("default_age_limit", c.defaultAgeLimit.toJson),
    ("max_keep_alive", Json.opt Duration.toJson c.maxKeepAlive),
    ("quantum", c.quantum.toJson)]

def read : ReadM CollectionConfig :=
  withDefaults "struct CollectionConfig"
    [⟨"quantum", fun c => do pure { c with quantum := ← Duration.read }⟩,
     ⟨"default_age_limit", fun c => do pure { c with defaultAgeLimit := ← Duration.read }⟩,
     ⟨"age_limits", fun c => do pure { c with ageLimits := ← Decode.map Duration.read }⟩,
     ⟨"max_keep_alive", fun c => do pure { c with maxKeepAlive := ← Decode.option Duration.read }⟩]
    {}

end CollectionConfig

namespace LimitConfig

def toJson (l : LimitConfig) : Json :=
  .obj [("max_enqueued_requests", l.maxEnqueuedRequests.toJson),
    ("max_enqueued_requests_stateless_worker", l.maxEnqueuedRequestsStatelessWorker.toJson)]

def read : ReadM LimitConfig :=
  withDefaults "struct LimitConfig"
    [⟨"max_enqueued_requests", fun l => do pure { l with maxEnqueuedRequests := ← LimitValue.read }⟩,
     ⟨"max_enqueued_requests_stateless_worker", fun l => do
        pure { l with maxEnqueuedRequestsStatelessWorker := ← LimitValue.read }⟩]
    {}

end LimitConfig

namespace SiloConfig

def toJson (c : SiloConfig) : Json :=
  .obj [("collection", c.collection.toJson), ("limits", c.limits.toJson),
    ("messaging", c.messaging.toJson)]

def read : ReadM SiloConfig :=
  withDefaults "struct SiloConfig"
    [⟨"messaging", fun c => do pure { c with messaging := ← MessagingConfig.read }⟩,
     ⟨"collection", fun c => do pure { c with collection := ← CollectionConfig.read }⟩,
     ⟨"limits", fun c => do pure { c with limits := ← LimitConfig.read }⟩]
    {}

def parse (text : String) : Except Error SiloConfig := Decode.run read text

end SiloConfig

end ActorSilo
