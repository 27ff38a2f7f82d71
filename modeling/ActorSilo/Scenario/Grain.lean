import ActorSilo.Grain.Type
import ActorSilo.Grain.Methods
import ActorSilo.Scenario.Input
import ActorSilo.Scenario.Output

/-! # Scenarios about grain types

A script describes grain types, registers them in order, and asks for the type of some
codes; it also lists method keys for a method table. The answer gives each described
type's structural text, the registry's size before and after, the types found, and the
method table's text.
-/

namespace ActorSilo.Scenario

/-- A grain type described by a script: `type`, `name`, and optionally `reentrant`,
`worker` (a stateless worker of at most that many activations), `placement`, `storage`
and `age_limit_ms`; an explicit placement overrides the worker's. -/
def grainTypeOf (j : Json) : Parse GrainType := do
  let code ← nat (← req j "type")
  let name ← str (← req j "name")
  let t : GrainType := { code, name, reentrant := ← boolOr j "reentrant" false }
  let t ← match opt j "worker" with
    | some m => pure (t.withWorkers (← nat m))
    | none => pure t
  let t ← match opt j "placement" with
    | some p => pure { t with placement := ← strategy p }
    | none => pure t
  let t ← match opt j "storage" with
    | some s => pure { t with storageProvider := some (← str s) }
    | none => pure t
  match opt j "age_limit_ms" with
  | some d => pure { t with ageLimit := some (← duration d) }
  | none => pure t

/-- A duration in whole milliseconds, at most 2^64 − 1. -/
def millisJson (d : Duration) : Json := .nat d.millisCapped

/-- What a script is told of a grain type. -/
def grainTypeJson (t : GrainType) : Json :=
  .obj [("age_limit_ms", Json.opt millisJson t.ageLimit), ("name", .str t.name),
    ("placement", strategyJson t.placement), ("reentrant", .bool t.reentrant),
    ("storage", Json.opt .str t.storageProvider), ("worker", .bool t.statelessWorker)]

/-- A method key `[interface, method]`, each a 32-bit word. -/
def methodKey (j : Json) : Parse (Nat × Nat) := do
  match j with
  | .arr [i, m] =>
    let i ← nat i
    let m ← nat m
    if Nat.pow 2 32 ≤ i then throw "iface out of u32 range"
    if Nat.pow 2 32 ≤ m then throw "method out of u32 range"
    pure (i, m)
  | _ => throw "method is [iface, method]"

def grainScenario (j : Json) : Parse Json := do
  let types ← (← list (← req j "types")).mapM grainTypeOf
  let codes ← match opt j "get" with
    | some l => (← list l).mapM nat
    | none => pure []
  let keys ← match opt j "methods" with
    | some l => (← list l).mapM methodKey
    | none => pure []
  let registry := GrainTypeRegistry.ofList types
  let table := keys.foldl (fun (t : MethodTable Unit) (i, m) => t.add i m ()) {}
  pure (.obj [("debug", .arr (types.map (.str ·.structural))),
    ("empty", .bool registry.isEmpty), ("empty_before", .bool ({} : GrainTypeRegistry).isEmpty),
    ("get", .arr (codes.map fun c => Json.opt grainTypeJson (registry.get? c))),
    ("len", .nat registry.size), ("methods", .str table.structural)])

end ActorSilo.Scenario
