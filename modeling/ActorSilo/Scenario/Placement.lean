import ActorSilo.Placement.Director
import ActorSilo.Directory
import ActorSilo.Scenario.Input
import ActorSilo.Scenario.Output

/-! # Scenarios about placement

A script gives the local silo, the active silos, the local activations of the target
and the activations registered in the directory, and places one message to a target
under a strategy. The answer is where the message goes, or why it cannot be placed.
-/

namespace ActorSilo.Scenario

def placementErrorJson (e : PlacementError) : Json := failureJson ("PlacementError::" ++ e.name) e.message

def placementScenario (j : Json) : Parse Json := do
  let silos (k : String) : Parse (List SiloAddress) := do
    match opt j k with
    | some l => (← list l).mapM silo
    | none => pure []
  let addresses (k : String) : Parse (List ActivationAddress) := do
    match opt j k with
    | some l => (← list l).mapM address
    | none => pure []
  let localSilo ← match opt j "local" with
    | some s => silo s
    | none => pure (SiloAddress.localhost 1 1)
  let view : PlacementView := ⟨localSilo, ← silos "active", ← addresses "locals"⟩
  let dir := (← addresses "registered").foldl Directory.register {}
  let target ← grain (← req j "target")
  let strat ← strategy (← req j "strategy")
  let known (_ : Unit) : Except DirectoryError (List ActivationAddress) :=
    match dir.lookup? target with
    | some (a :: rest) => .ok (a :: rest)
    | _ => .ok (dir.fullLookup target)
  match Placement.place view known target strat .first 0 with
  | .ok p =>
    let shown := [("activation", if p.isNew then .null else .str (activationText p.address.activation)),
      ("grain", .str p.address.grain.render), ("new", .bool p.isNew),
      ("silo", .str p.address.silo.render), ("strategy", strategyJson p.strategy)]
    pure (.obj shown)
  | .error e => pure (placementErrorJson e)

end ActorSilo.Scenario
