import ActorSilo.Directory
import ActorSilo.Scenario.Input
import ActorSilo.Json.Write

/-! # Scenarios about the grain directory

A script sets the partition owners and runs registrations, removals, look-ups and
cache invalidations on a directory kept in memory. Every step answers its result and
the number of registered addresses.
-/

namespace ActorSilo.Scenario

def addressesJson (l : List ActivationAddress) : Json := .arr (l.map (.str ·.render))

def directoryStep (d : Directory) (step : Json) : Parse (Json × Directory) := do
  let addr : Parse ActivationAddress := do address (← req step "addr")
  let target : Parse GrainId := do grain (← req step "grain")
  match ← strOr step "do" "" with
  | "register" => pure (.str "ok", d.register (← addr))
  | "register_single" =>
    let (d, r) := d.registerSingle (← addr)
    match r with
    | .registered a => pure (.obj [("registered", .str a.render)], d)
    | .duplicate a => pure (.obj [("duplicate", .str a.render)], d)
  | "unregister" => pure (.str "ok", d.unregister (← addr))
  | "unregister_many" =>
    let addrs ← (← list (← req step "addrs")).mapM address
    pure (.str "ok", d.unregisterMany addrs)
  | "full_lookup" => pure (addressesJson (d.fullLookup (← target)), d)
  | "local_lookup" => pure (Json.opt addressesJson (d.lookup? (← target)), d)
  | "invalidate" => pure (.str "ok", d.invalidate (← target))
  | "invalidations" => pure (.arr (d.invalidations.map (.str ·.render)), d)
  | "primary" => pure (Json.opt (.str ·.render) (d.primary? (← target)), d)
  | "set_owners" =>
    let owners ← (← list (← req step "owners")).mapM silo
    pure (.str "ok", { d with owners })
  | other => throw s!"unknown directory step {other}"

def directoryScenario (j : Json) : Parse Json := do
  let owners ← match opt j "owners" with
    | some l => (← list l).mapM silo
    | none => pure []
  let steps ← list (← req j "steps")
  let visit (acc : List Json × Directory) (step : Json) : Parse (List Json × Directory) := do
    let (out, d) := acc
    let (r, d) ← directoryStep d step
    pure (out ++ [.obj [("entries", .nat d.entryCount), ("r", r)]], d)
  let (answers, _) ← steps.foldlM visit ([], { owners })
  pure (.obj [("steps", .arr answers)])

end ActorSilo.Scenario
